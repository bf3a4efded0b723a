/-
# Reckon.Number.Decimal — reading decimal numbers

A *decimal number* is spelled with an optional sign, digits with at most one point among or
after them (at least one digit in all), and an optional power of ten: `12`, `.5`, `1.`,
`2.5e-1`, `+3E+4`. `read?` reads a text that is such a number from its first character to
its last, and gives the double nearest to it, an even mantissa winning a tie; a number
beyond the range of doubles reads as an infinity.
-/
import Reckon.Text.Blank

namespace Reckon.Number

open Reckon.Text (isDigit)

/-- A decimal value `coefficient · 10 ^ exponent`. -/
structure Decimal where
  coefficient : Nat
  exponent : Int
deriving DecidableEq, Repr

/-- The double nearest to a decimal value. -/
def Decimal.toFloat (d : Decimal) : Float :=
  Float.ofScientific d.coefficient (d.exponent < 0) d.exponent.natAbs

/-- The number that a run of digits spells in base ten. -/
def digitsValue (digits : List Char) : Nat :=
  digits.foldl (fun n c => 10 * n + (c.toNat - '0'.toNat)) 0

/-- Reads what may follow the digits: nothing, or `e` or `E`, an optional sign and at least
one digit, which spell the power of ten. -/
def readExponent? : List Char → Option Int
  | [] => some 0
  | e :: rest =>
    if e == 'e' || e == 'E' then
      let (negative, digits) : Bool × List Char :=
        match rest with
        | '-' :: digits => (true, digits)
        | '+' :: digits => (false, digits)
        | digits => (false, digits)
      if digits.isEmpty || !digits.all isDigit then none
      else if negative then some (-(digitsValue digits : Int))
      else some (digitsValue digits)
    else none

/-- Reads a decimal number without a sign. -/
def readUnsigned? (text : List Char) : Option Decimal :=
  let whole := text.takeWhile isDigit
  let (fraction, rest) : List Char × List Char :=
    match text.dropWhile isDigit with
    | '.' :: rest => (rest.takeWhile isDigit, rest.dropWhile isDigit)
    | rest => ([], rest)
  if whole.isEmpty && fraction.isEmpty then none
  else
    (readExponent? rest).map fun exponent =>
      ⟨digitsValue (whole ++ fraction), exponent - fraction.length⟩

/-- Reads a decimal number. -/
def read? (text : List Char) : Option Float :=
  match text with
  | '-' :: unsigned => (readUnsigned? unsigned).map fun d => -d.toFloat
  | '+' :: unsigned => (readUnsigned? unsigned).map Decimal.toFloat
  | unsigned => (readUnsigned? unsigned).map Decimal.toFloat

/-! ## Texts that count as numbers

A text value has a numeric view only if it *looks* numeric: surrounding white space apart,
it holds a digit and is made of digits, points, signs and the letter of the exponent. This
keeps the names of the infinities, which other readers take, out of arithmetic. -/

/-- A character that a decimal number can hold. -/
def isNumeralChar (c : Char) : Bool :=
  isDigit c || c == '.' || c == 'e' || c == 'E' || c == '+' || c == '-'

/-- The number that a text spells, white space around it apart. -/
def ofText? (text : List Char) : Option Float :=
  let text := Text.trim text
  if text.any isDigit && text.all isNumeralChar then read? text else none

end Reckon.Number
