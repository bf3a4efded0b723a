/-
# Reckon.Number.Notation — how numbers are written

Three ways to write a number share the digits of `Reckon.Number.Shortest` and differ in
layout only.

* `plain`: the shortest digits, never with a power of ten, for tokens and listings.
* `display`: the text of a number inside a formula's strings. An integer below `10 ^ 15` is
  written as that integer, so negative zero shows as `0`; the special values are `NAN`,
  `INF` and `-INF`.
* `json`: the form of the JSON standard. A number always has a point or a power of ten, and
  what JSON cannot spell is `null`.
-/
import Reckon.Number.Shortest

namespace Reckon.Number

/-- The digits of a natural number in base ten. -/
def digitsOf (n : Nat) : List Char :=
  Nat.toDigits 10 n

/-- A list of digits without the zeros it ends with. -/
def dropTrailingZeros : List Char → List Char
  | [] => []
  | c :: cs =>
    match dropTrailingZeros cs with
    | [] => if c = '0' then [] else [c]
    | rest => c :: rest

/-- Significant digits together with the place of the point: the value is
`0.d₁d₂… · 10 ^ point`. -/
structure Layout where
  digits : List Char
  point : Int

/-- The significant digits of a positive decimal. -/
def Decimal.layout (d : Decimal) : Layout :=
  let digits := digitsOf d.coefficient
  ⟨dropTrailingZeros digits, d.exponent + digits.length⟩

namespace Layout

/-- So many zeros. -/
def zeros (n : Int) : List Char :=
  List.replicate n.toNat '0'

/-- Without a power of ten, and without a point where there is no fraction. -/
def positional (l : Layout) : List Char :=
  if l.point ≤ 0 then '0' :: '.' :: zeros (-l.point) ++ l.digits
  else if (l.digits.length : Int) ≤ l.point then
    l.digits ++ zeros (l.point - l.digits.length)
  else l.digits.take l.point.toNat ++ '.' :: l.digits.drop l.point.toNat

/-- One digit before the point, the others after it. -/
def significand (l : Layout) : List Char :=
  match l.digits with
  | [] => ['0']
  | [d] => [d]
  | d :: rest => d :: '.' :: rest

end Layout

/-- An integer in base ten. -/
def integerText : Int → List Char
  | .ofNat n => digitsOf n
  | .negSucc n => '-' :: digitsOf (n + 1)

/-- A minus sign for a negative number. -/
def signText (negative : Bool) : List Char :=
  if negative then ['-'] else []

/-- The layout of the shortest digits of a positive number. -/
def shortestLayout (tie : Tie) (x : Float) (mantissa : Nat) (exponent : Int) : Layout :=
  (shortestOf tie x.abs mantissa exponent).layout

/-- The shortest digits without a power of ten: `-0`, `0.1`, `inf`, `NaN`. -/
def plain (x : Float) : List Char :=
  match Binary.ofFloat x with
  | .nan => ['N', 'a', 'N']
  | .infinite negative => signText negative ++ ['i', 'n', 'f']
  | .finite negative 0 _ => signText negative ++ ['0']
  | .finite negative m e => signText negative ++ (shortestLayout .up x m e).positional

/-- The text of a number inside a string of the language. -/
def display (x : Float) : List Char :=
  match Binary.ofFloat x with
  | .nan => ['N', 'A', 'N']
  | .infinite negative => signText negative ++ ['I', 'N', 'F']
  | .finite negative m e =>
    if (Binary.finite negative m e).isWhole && Binary.integerPart m e < Nat.pow 10 15 then
      integerText (Binary.truncate negative m e)
    else plain x

/-- The exponent part of a number in JSON, with its sign. -/
def jsonExponent (n : Int) : List Char :=
  match n with
  | .ofNat n => 'e' :: '+' :: digitsOf n
  | .negSucc n => 'e' :: '-' :: digitsOf (n + 1)

/-- A positive number in JSON: written out if its leading digit stands at one of the sixteen
places up to the point or the five after it, and with a power of ten otherwise. -/
def jsonMagnitude (l : Layout) : List Char :=
  if -5 < l.point && l.point ≤ 16 then
    if (l.digits.length : Int) ≤ l.point then l.positional ++ ['.', '0'] else l.positional
  else l.significand ++ jsonExponent (l.point - 1)

/-- A number in JSON. -/
def json (x : Float) : List Char :=
  match Binary.ofFloat x with
  | .nan => ['n', 'u', 'l', 'l']
  | .infinite _ => ['n', 'u', 'l', 'l']
  | .finite negative 0 _ => signText negative ++ ['0', '.', '0']
  | .finite negative m e => signText negative ++ jsonMagnitude (shortestLayout .toEven x m e)

end Reckon.Number
