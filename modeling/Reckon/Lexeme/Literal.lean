/-
# Reckon.Lexeme.Literal — string, pattern and number literals

A string literal stands between two equal quotes of either kind, a pattern literal between
two slashes, with flags after the second. In both a backslash hides the character after it
from being the end. A string may hold raw controls and the other quote; its escapes are those
of JSON, and `\'` beside them.

A number literal is the longest stretch that can be one: digits with at most one point, and
an exponent only if digits follow its letter.
-/
import Reckon.Fault
import Reckon.Json.Escape
import Reckon.Number.Decimal
import Reckon.Text.Blank

namespace Reckon.Lexeme

open Reckon.Text (isDigit isLetter)

/-- Splits a text at the first `stop` that no backslash hides. -/
def splitAtStop? (stop : Char) : List Char → Option (List Char × List Char)
  | [] => none
  | '\\' :: cs =>
    match cs with
    | [] => none
    | c :: cs => (splitAtStop? stop cs).map fun (body, rest) => ('\\' :: c :: body, rest)
  | c :: cs =>
    if c = stop then some ([], cs)
    else (splitAtStop? stop cs).map fun (body, rest) => (c :: body, rest)

/-- The text that the raw body of a string literal spells. -/
def unescape? : List Char → Option (List Char)
  | [] => some []
  | '\\' :: cs =>
    match cs with
    | [] => some ['\\']
    | '\'' :: cs => (unescape? cs).map ('\'' :: ·)
    | cs =>
      match _h : Json.readEscape? cs with
      | none => none
      | some (c, rest) => (unescape? rest).map (c :: ·)
  | c :: cs => (unescape? cs).map (c :: ·)
termination_by cs => cs.length
decreasing_by
  · simp only [List.length_cons]
    omega
  · have := Json.length_readEscape? _h
    simp only [List.length_cons]
    omega
  · simp

/-- Reads a string literal after its opening quote. -/
def scanText (quote : Char) (cs : List Char) : Except Fault (String × List Char) :=
  match splitAtStop? quote cs with
  | none => .error (.grammar .unterminatedString)
  | some (raw, rest) =>
    match unescape? raw with
    | none => .error (.grammar (.invalidString (String.ofList raw)))
    | some s => .ok (String.ofList s, rest)

/-- Reads a pattern literal after its opening slash. The result has both slashes and the
flags. -/
def scanPattern (cs : List Char) : Except Fault (String × List Char) :=
  match splitAtStop? '/' cs with
  | none => .error (.grammar .unterminatedPattern)
  | some ([], _) => .error (.grammar .emptyPattern)
  | some (body, rest) =>
    let flags := rest.takeWhile isLetter
    .ok (String.ofList ('/' :: body ++ '/' :: flags), rest.dropWhile isLetter)

/-! ## Numbers -/

/-- Splits off the point and the digits after it. -/
def splitFraction : List Char → List Char × List Char
  | '.' :: cs => ('.' :: cs.takeWhile isDigit, cs.dropWhile isDigit)
  | cs => ([], cs)

/-- Splits off an exponent: its letter, an optional sign, and at least one digit. -/
def splitExponent : List Char → List Char × List Char
  | [] => ([], [])
  | e :: cs =>
    if e == 'e' || e == 'E' then
      -- without a digit the letter starts a name, as in `2e`
      match cs with
      | [] => ([], [e])
      | s :: ds =>
        if s == '+' || s == '-' then
          if (ds.takeWhile isDigit).isEmpty then ([], e :: s :: ds)
          else (e :: s :: ds.takeWhile isDigit, ds.dropWhile isDigit)
        else if isDigit s then (e :: cs.takeWhile isDigit, cs.dropWhile isDigit)
        else ([], e :: cs)
    else ([], e :: cs)

/-- Splits off the longest number literal. -/
def splitNumeral (cs : List Char) : List Char × List Char :=
  let (fraction, rest) := splitFraction (cs.dropWhile isDigit)
  let (exponent, rest) := splitExponent rest
  (cs.takeWhile isDigit ++ fraction ++ exponent, rest)

/-- Whether a text starts with a point that no digit follows. -/
def startsWithBarePoint : List Char → Bool
  | '.' :: c :: _ => !isDigit c
  | ['.'] => true
  | _ => false

/-- Reads a number literal. -/
def scanNumber (cs : List Char) : Except Fault (Float × List Char) :=
  if startsWithBarePoint cs then .error (.grammar (.illegalCharacter '.'))
  else
    let (numeral, rest) := splitNumeral cs
    match Number.read? numeral with
    | some x => .ok (x, rest)
    | none => .error (.grammar (.invalidNumber (String.ofList numeral)))

end Reckon.Lexeme
