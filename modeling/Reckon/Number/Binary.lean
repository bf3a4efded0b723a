/-
# Reckon.Number.Binary — the exact value of a number

A number of the formula language is a double. `Binary` takes one apart into the exact
rational it stands for: a sign, a mantissa and a power of two. Everything the language does
with a number as an *integer* — taking its integer part, asking whether it is whole, the
remainder of two integers — is decided on this exact value.

Integers of 64 bits are reached by clamping: a number beyond the range goes to the end of
the range on its side, and a number that is not a number goes to zero.
-/

namespace Reckon.Number

/-- A double taken apart; a finite one is `± mantissa · 2 ^ exponent`. -/
inductive Binary where
  | nan
  | infinite (negative : Bool)
  | finite (negative : Bool) (mantissa : Nat) (exponent : Int)
deriving DecidableEq, Repr

namespace Binary

/-- Takes a double apart. -/
def ofFloat (x : Float) : Binary :=
  let bits := x.toBits.toNat
  let negative := bits >>> 63 == 1
  let scale : Nat := bits >>> 52 % 2048
  let fraction := bits % (1 <<< 52)
  -- the largest scale marks what is not finite, the smallest what has no leading one
  if scale = 2047 then
    if fraction = 0 then infinite negative else nan
  else if scale = 0 then finite negative fraction (-1074)
  else finite negative (fraction + 1 <<< 52) ((scale : Int) - 1075)

/-- The integer part of `mantissa · 2 ^ exponent`. -/
def integerPart (mantissa : Nat) (exponent : Int) : Nat :=
  if 0 ≤ exponent then mantissa <<< exponent.toNat
  else mantissa >>> (-exponent).toNat

/-- A finite value without its fraction. -/
def truncate (negative : Bool) (mantissa : Nat) (exponent : Int) : Int :=
  if negative then -(integerPart mantissa exponent : Int) else integerPart mantissa exponent

/-- Whether the value is an integer. -/
def isWhole : Binary → Bool
  | finite _ m e => 0 ≤ e || m % (1 <<< (-e).toNat) == 0
  | _ => false

end Binary

/-- Whether a number is a finite integer. -/
def isWhole (x : Float) : Bool :=
  (Binary.ofFloat x).isWhole

/-- The nearest integer of 64 bits. -/
def clamp (n : Int) : Int64 :=
  if n < Int64.minValue.toInt then Int64.minValue
  else if Int64.maxValue.toInt < n then Int64.maxValue
  else Int64.ofInt n

/-- A number without its fraction, clamped into 64 bits. -/
def toInt64 (x : Float) : Int64 :=
  match Binary.ofFloat x with
  | .nan => 0
  | .infinite true => Int64.minValue
  | .infinite false => Int64.maxValue
  | .finite negative m e => clamp (Binary.truncate negative m e)

/-- The number nearest to an integer. -/
def ofInt64 (n : Int64) : Float :=
  Float.ofInt n.toInt

end Reckon.Number
