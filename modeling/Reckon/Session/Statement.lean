/-
# Reckon.Session.Statement — assignments, definitions and expressions

A statement is an assignment `name = …`, a definition `name(a, b) = …`, or else an
expression. The first two are told by their head alone: a name, for a definition a list of
names in parentheses, and an equals sign that does not start `==` or `=~`, with spaces and
tabs between these as one likes. Whatever follows the equals sign is the body, and is not
looked at here; and a text whose head does not fit is an expression as a whole, so every text
is a statement.
-/
import Reckon.Text.Blank

namespace Reckon

open Text (isNameChar isSmallLetter)

/-- A statement, by its kind. Bodies and expressions are texts still. -/
inductive Statement where
  | assignment (name body : String)
  | definition (name : String) (parameters : List String) (body : String)
  | expression (source : String)
deriving DecidableEq, Repr

namespace Statement

/-! ## Preparation -/

/-- A text without a final semicolon. -/
def dropSemicolon : List Char → List Char
  | [] => []
  | [';'] => []
  | c :: cs => c :: dropSemicolon cs

/-- Prepares a text: line breaks go, wherever they stand, then the blanks at either end, one
final semicolon, and the blanks before it. -/
def prepare (source : List Char) : List Char :=
  let line := source.filter fun c => c != '\r' && c != '\n'
  Text.trimEnd (dropSemicolon (Text.trim line))

/-- Prepares a text. -/
def prepareText (source : String) : String :=
  String.ofList (prepare source.toList)

/-! ## Heads -/

/-- A space or a tab. -/
def isSpace (c : Char) : Bool :=
  c == ' ' || c == '\t'

/-- A text from its first character that is neither a space nor a tab. -/
def skipSpaces (cs : List Char) : List Char :=
  cs.dropWhile isSpace

/-- Splits off the name that a text starts with. -/
def splitName? : List Char → Option (String × List Char)
  | [] => none
  | c :: cs =>
    if isSmallLetter c then
      some (String.ofList (c :: cs.takeWhile isNameChar), cs.dropWhile isNameChar)
    else none

/-- Takes an equals sign that starts no comparison and no match, and the spaces after it. -/
def splitEquals? : List Char → Option (List Char)
  -- `a == b` and `a =~ b` are expressions
  | '=' :: '=' :: _ => none
  | '=' :: '~' :: _ => none
  | '=' :: cs => some (skipSpaces cs)
  | _ => none

/-- Takes a comma and the parameter after it. -/
def splitParameter? (cs : List Char) : Option (String × List Char) :=
  match skipSpaces cs with
  | ',' :: rest => splitName? (skipSpaces rest)
  | _ => none

theorem length_skipSpaces_le (cs : List Char) : (skipSpaces cs).length ≤ cs.length :=
  Text.length_dropWhile_le isSpace cs

theorem length_splitName? {cs rest : List Char} {name : String}
    (h : splitName? cs = some (name, rest)) : rest.length < cs.length := by
  cases cs with
  | nil => cases h
  | cons c cs =>
    rw [splitName?] at h
    split at h
    · simp only [Option.some.injEq, Prod.mk.injEq] at h
      rw [← h.2]
      exact Nat.lt_succ_of_le (Text.length_dropWhile_le isNameChar cs)
    · cases h

theorem length_splitParameter? {cs rest : List Char} {name : String}
    (h : splitParameter? cs = some (name, rest)) : rest.length < cs.length := by
  unfold splitParameter? at h
  split at h
  · rename_i cs' hcs
    have h1 := length_skipSpaces_le cs
    have h2 := length_skipSpaces_le cs'
    have h3 := length_splitName? h
    rw [hcs, List.length_cons] at h1
    omega
  · cases h

/-- Takes parameters that each follow a comma, as many as there are. -/
def splitParameters (cs : List Char) : List String × List Char :=
  match _h : splitParameter? cs with
  | none => ([], cs)
  | some (name, rest) =>
    let (names, rest) := splitParameters rest
    (name :: names, rest)
termination_by cs.length
decreasing_by exact length_splitParameter? _h

/-- Takes a list of parameters, which may be empty. -/
def splitParameterList (cs : List Char) : List String × List Char :=
  match splitName? cs with
  | none => ([], cs)
  | some (name, rest) =>
    let (names, rest) := splitParameters rest
    (name :: names, rest)

/-- Reads a definition. -/
def definition? (cs : List Char) : Option Statement := do
  let (name, cs) ← splitName? (skipSpaces cs)
  match skipSpaces cs with
  | '(' :: cs =>
    let (parameters, cs) := splitParameterList (skipSpaces cs)
    match skipSpaces cs with
    | ')' :: cs => do
      let body ← splitEquals? (skipSpaces cs)
      return definition name parameters (String.ofList body)
    | _ => none
  | _ => none

/-- Reads an assignment. -/
def assignment? (cs : List Char) : Option Statement := do
  let (name, cs) ← splitName? (skipSpaces cs)
  let body ← splitEquals? (skipSpaces cs)
  return assignment name (String.ofList body)

/-- The statement that a prepared text is. -/
def classify (cs : List Char) : Statement :=
  match definition? cs with
  | some s => s
  | none =>
    match assignment? cs with
    | some s => s
    | none => expression (String.ofList cs)

end Statement

end Reckon
