/-
# Reckon.Json.Reader — reading JSON

The strict grammar of the JSON standard: no trailing commas, no leading zeros, no comments,
strings without raw controls and without stray surrogates. Two limits go beyond it. Arrays
and objects may nest to a depth of `maxDepth` only, and a number must lie within the range of
doubles. Of several members with one name the last one counts.

The reader of a value calls itself on smaller depths only; the loops over items and members
take the reader of one value as an argument and count down the characters they were given.
-/
import Reckon.Json.Escape
import Reckon.Number.Decimal
import Reckon.Value.Basic

namespace Reckon.Json

open Reckon.Text (isDigit)

/-- How deep arrays and objects may nest. -/
def maxDepth : Nat := 127

/-- White space between the tokens of JSON. -/
def isSpace (c : Char) : Bool :=
  c == ' ' || c == '\t' || c == '\n' || c == '\r'

/-- The text from its first character that is no white space. -/
def skipSpace (cs : List Char) : List Char :=
  cs.dropWhile isSpace

/-- Reads a string after its opening quote. -/
def readString? : List Char → Option (List Char × List Char)
  | [] => none
  | '"' :: rest => some ([], rest)
  | '\\' :: rest =>
    match _h : readEscape? rest with
    | none => none
    | some (c, rest') => (readString? rest').map fun (s, r) => (c :: s, r)
  | c :: rest =>
    if c.toNat < 0x20 then none
    else (readString? rest).map fun (s, r) => (c :: s, r)
termination_by cs => cs.length
decreasing_by
  · have := length_readEscape? _h
    simp only [List.length_cons]
    omega
  · simp

/-! ## Numbers -/

/-- Reads the digits before the point: a zero alone, or digits that do not start with one. -/
def readWhole? : List Char → Option (List Char × List Char)
  | '0' :: rest => some (['0'], rest)
  | cs =>
    let digits := cs.takeWhile isDigit
    if digits.isEmpty then none else some (digits, cs.dropWhile isDigit)

/-- Reads the point and the digits after it, if there is a point. -/
def readFraction? : List Char → Option (List Char × List Char)
  | '.' :: rest =>
    let digits := rest.takeWhile isDigit
    if digits.isEmpty then none else some (digits, rest.dropWhile isDigit)
  | cs => some ([], cs)

/-- Reads the power of ten, if there is one. -/
def readPower? : List Char → Option (Int × List Char)
  | [] => some (0, [])
  | e :: rest =>
    if e == 'e' || e == 'E' then
      let (negative, rest) : Bool × List Char :=
        match rest with
        | '-' :: rest => (true, rest)
        | '+' :: rest => (false, rest)
        | rest => (false, rest)
      let digits := rest.takeWhile isDigit
      let n : Int := Number.digitsValue digits
      if digits.isEmpty then none
      else some (if negative then -n else n, rest.dropWhile isDigit)
    else some (0, e :: rest)

/-- Reads a number without its sign. -/
def readMagnitude? (cs : List Char) : Option (Float × List Char) := do
  let (whole, cs) ← readWhole? cs
  let (fraction, cs) ← readFraction? cs
  let (power, cs) ← readPower? cs
  let d : Number.Decimal := ⟨Number.digitsValue (whole ++ fraction), power - fraction.length⟩
  let x := d.toFloat
  -- beyond the range of doubles
  if x.isInf then none else some (x, cs)

/-- Reads a number; one beyond the range of doubles is refused. -/
def readNumber? : List Char → Option (Float × List Char)
  | '-' :: cs => (readMagnitude? cs).map fun (x, rest) => (-x, rest)
  | cs => readMagnitude? cs

/-! ## Values -/

/-- Reads a value that is no container. -/
def readScalar? : List Char → Option (Value × List Char)
  | 'n' :: 'u' :: 'l' :: 'l' :: rest => some (.null, rest)
  | 't' :: 'r' :: 'u' :: 'e' :: rest => some (.bool true, rest)
  | 'f' :: 'a' :: 'l' :: 's' :: 'e' :: rest => some (.bool false, rest)
  | '"' :: rest => (readString? rest).map fun (s, rest) => (.text (String.ofList s), rest)
  | cs => (readNumber? cs).map fun (x, rest) => (.number x, rest)

/-- Reads the items of an array from the first one on, up to and with the closing bracket.
The first argument bounds the count of items. -/
def readItems? (item : List Char → Option (Value × List Char)) :
    Nat → List Char → Option (List Value × List Char)
  | 0, _ => none
  | n + 1, cs => do
    let (v, cs) ← item (skipSpace cs)
    match skipSpace cs with
    | ']' :: rest => some ([v], rest)
    | ',' :: rest => do
      let (vs, rest) ← readItems? item n rest
      some (v :: vs, rest)
    | _ => none

/-- Reads one member of an object: a string, a colon and a value. -/
def readMember? (item : List Char → Option (Value × List Char)) (cs : List Char) :
    Option ((String × Value) × List Char) :=
  match skipSpace cs with
  | '"' :: cs => do
    let (name, cs) ← readString? cs
    match skipSpace cs with
    | ':' :: cs => do
      let (v, cs) ← item (skipSpace cs)
      some ((String.ofList name, v), cs)
    | _ => none
  | _ => none

/-- Reads the members of an object from the first one on, up to and with the closing brace.
The first argument bounds the count of members. -/
def readMembers? (item : List Char → Option (Value × List Char)) :
    Nat → List Char → Option (List (String × Value) × List Char)
  | 0, _ => none
  | n + 1, cs => do
    let (member, cs) ← readMember? item cs
    match skipSpace cs with
    | '}' :: rest => some ([member], rest)
    | ',' :: rest => do
      let (members, rest) ← readMembers? item n rest
      some (member :: members, rest)
    | _ => none

/-- Reads the inside of an array or object, after its opening bracket. -/
def readContainer? (item : List Char → Option (Value × List Char)) (opening : Char)
    (cs : List Char) : Option (Value × List Char) :=
  if opening == '[' then
    match skipSpace cs with
    | ']' :: rest => some (.array [], rest)
    | cs => (readItems? item cs.length cs).map fun (items, rest) => (.array items, rest)
  else
    match skipSpace cs with
    | '}' :: rest => some (.object [], rest)
    | cs =>
      (readMembers? item cs.length cs).map fun (members, rest) =>
        (.object (Entries.ofList members), rest)

/-- Reads a value whose arrays and objects nest no deeper than the first argument. -/
def readValue? : Nat → List Char → Option (Value × List Char)
  | 0, cs => readScalar? cs
  | depth + 1, cs =>
    match cs with
    | '[' :: rest => readContainer? (readValue? depth) '[' rest
    | '{' :: rest => readContainer? (readValue? depth) '{' rest
    | cs => readScalar? cs

/-- Reads a text that is one JSON value, white space around it apart. -/
def read? (cs : List Char) : Option Value :=
  match readValue? maxDepth (skipSpace cs) with
  | none => none
  | some (v, rest) => if (skipSpace rest).isEmpty then some v else none

end Reckon.Json
