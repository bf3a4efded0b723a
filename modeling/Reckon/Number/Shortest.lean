/-
# Reckon.Number.Shortest — the shortest decimal that reads back

The decimal digits of a number are the fewest that read back to it, and of two equally
short candidates the nearer. They are found by trial: for one digit, two digits and so on
the two neighbours of the exact value on the grid of that many digits are read back, the
nearer first, and the first that gives the number again is taken. Seventeen digits always
suffice; should no neighbour read back, all digits of the exact value are given, which
keeps the function total without a promise about doubles.

What happens when the exact value lies midway between its two neighbours is left to the
format that asks.
-/
import Reckon.Number.Binary
import Reckon.Number.Decimal

namespace Reckon.Number

/-- Which of two equally near neighbours is tried first. -/
inductive Tie where
  /-- The larger neighbour. -/
  | up
  /-- The neighbour whose last digit is even. -/
  | toEven
deriving DecidableEq, Repr

/-- `mantissa · 2 ^ exponent` as a fraction of two naturals. -/
def asFraction (mantissa : Nat) (exponent : Int) : Nat × Nat :=
  if 0 ≤ exponent then (mantissa <<< exponent.toNat, 1)
  else (mantissa, 1 <<< (-exponent).toNat)

/-- How many digits a natural number has in base ten. -/
def digitCount (n : Nat) : Nat :=
  (Nat.toDigits 10 n).length

/-- The position of the leading digit of a positive fraction: the `k` with
`10 ^ (k - 1) ≤ num / den < 10 ^ k`. -/
def magnitude (num den : Nat) : Int :=
  if den ≤ num then digitCount (num / den)
  else
    let j := digitCount (den / num) - 1
    if den ≤ num * Nat.pow 10 j then 1 - (j : Int) else -(j : Int)

/-- The fraction `num / den` in units of `10 ^ unit`, again as a fraction. -/
def inUnits (num den : Nat) (unit : Int) : Nat × Nat :=
  if 0 ≤ unit then (num, den * Nat.pow 10 unit.toNat)
  else (num * Nat.pow 10 (-unit).toNat, den)

/-- The neighbours of a fraction on the grid of step `10 ^ unit`, the nearer one first. -/
def neighbours (tie : Tie) (num den : Nat) (unit : Int) : List Decimal :=
  let (n, d) := inUnits num den unit
  let below : Decimal := ⟨n / d, unit⟩
  let above : Decimal := ⟨n / d + 1, unit⟩
  let rest := n % d
  if rest = 0 then [below]
  else if 2 * rest < d then [below, above]
  else if d < 2 * rest then [above, below]
  else
    match tie with
    | .up => [above, below]
    | .toEven => if n / d % 2 = 0 then [below, above] else [above, below]

/-- The exact value `mantissa · 2 ^ exponent` in decimal. -/
def exactDecimal (mantissa : Nat) (exponent : Int) : Decimal :=
  if 0 ≤ exponent then ⟨mantissa <<< exponent.toNat, 0⟩
  else ⟨mantissa * Nat.pow 5 (-exponent).toNat, exponent⟩

/-- Whether a decimal reads back to a number. -/
def readsBack (x : Float) (d : Decimal) : Bool :=
  d.toFloat.toBits == x.toBits

/-- The shortest decimal that reads back to the positive number `x`, whose exact value is
`mantissa · 2 ^ exponent`. -/
def shortestOf (tie : Tie) (x : Float) (mantissa : Nat) (exponent : Int) : Decimal :=
  let (num, den) := asFraction mantissa exponent
  let k := magnitude num den
  let candidates :=
    (List.range 17).flatMap fun n => neighbours tie num den (k - (n + 1 : Nat))
  (candidates.find? (readsBack x)).getD (exactDecimal mantissa exponent)

end Reckon.Number
