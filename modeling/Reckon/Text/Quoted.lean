/-
# Reckon.Text.Quoted — a text shown between double quotes

How a string operand is written when converted code is shown on one line. The text stands
between double quotes; the quote, the backslash and the usual controls have two-character
escapes; every other character that has no picture of its own, or would be drawn onto the
one before it, is written `\u{…}` with its number in base sixteen.
-/
import Reckon.Text.Letter

namespace Reckon.Text

/-- The digits of a number in base sixteen, in small letters. -/
def hexDigits (n : Nat) : List Char :=
  Nat.toDigits 16 n

/-- One character as it is shown between the quotes. -/
def showChar (c : Char) : List Char :=
  match c with
  | '\x00' => ['\\', '0']
  | '\t' => ['\\', 't']
  | '\r' => ['\\', 'r']
  | '\n' => ['\\', 'n']
  | '\\' => ['\\', '\\']
  | '"' => ['\\', '"']
  | c =>
    if isExtending c || !isPrintable c then
      ['\\', 'u', '{'] ++ hexDigits c.toNat ++ ['}']
    else [c]

/-- A text between double quotes. -/
def quoted (s : String) : String :=
  String.ofList ('"' :: s.toList.flatMap showChar ++ ['"'])

end Reckon.Text
