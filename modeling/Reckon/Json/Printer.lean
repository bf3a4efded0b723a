/-
# Reckon.Json.Printer — values in canonical JSON

One text per value: no white space, members in the order of their names, numbers in the form
of `Number.json`, and strings with as few escapes as the standard allows. Two containers are
equal for the language exactly when these texts are equal.
-/
import Reckon.Number.Notation
import Reckon.Value.Basic

namespace Reckon.Json

/-- A digit of base sixteen, in small letters. -/
def hexDigit (n : Nat) : Char :=
  Nat.digitChar n

/-- A character as it stands in a JSON string: the quote, the backslash and the controls
are escaped, every other character stands for itself. -/
def escapeChar (c : Char) : List Char :=
  match c with
  | '"' => ['\\', '"']
  | '\\' => ['\\', '\\']
  | '\x08' => ['\\', 'b']
  | '\x0c' => ['\\', 'f']
  | '\n' => ['\\', 'n']
  | '\r' => ['\\', 'r']
  | '\t' => ['\\', 't']
  | c =>
    if c.toNat < 0x20 then
      ['\\', 'u', '0', '0', hexDigit (c.toNat / 16), hexDigit (c.toNat % 16)]
    else [c]

/-- A JSON string. -/
def string (s : String) : List Char :=
  '"' :: s.toList.flatMap escapeChar ++ ['"']

mutual

/-- The canonical JSON text of a value. -/
def print : Value → List Char
  | .null => ['n', 'u', 'l', 'l']
  | .bool true => ['t', 'r', 'u', 'e']
  | .bool false => ['f', 'a', 'l', 's', 'e']
  | .number x => Number.json x
  | .text s => string s
  | .array items => '[' :: printItems items
  | .object members => '{' :: printMembers members

/-- The items of an array, up to and with the closing bracket. -/
def printItems : List Value → List Char
  | [] => [']']
  | [v] => print v ++ [']']
  | v :: rest => print v ++ ',' :: printItems rest

/-- The members of an object, up to and with the closing brace. -/
def printMembers : List (String × Value) → List Char
  | [] => ['}']
  | [(name, v)] => string name ++ ':' :: print v ++ ['}']
  | (name, v) :: rest => string name ++ ':' :: print v ++ ',' :: printMembers rest

end

end Reckon.Json

namespace Reckon.Value

/-- The canonical JSON text of a value. -/
def json (v : Value) : String :=
  String.ofList (Json.print v)

end Reckon.Value
