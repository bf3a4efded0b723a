/-
# Reckon.Lexeme.Bracket — the partner of an opening bracket

JSON literals and selectors reach from their opening bracket to its partner. Square brackets
and braces count alike, whichever of the two closes, and brackets inside quotes do not
count. A quoted run starts at a quote outside any run and ends at the next quote of the same
kind that no backslash hides.
-/

namespace Reckon.Lexeme

/-- An opening square bracket or brace. -/
def isOpening (c : Char) : Bool :=
  c == '[' || c == '{'

/-- A closing square bracket or brace. -/
def isClosing (c : Char) : Bool :=
  c == ']' || c == '}'

/-- A quote of either kind. -/
def isQuote (c : Char) : Bool :=
  c == '"' || c == '\''

/-- How many characters precede the bracket that closes the last of `depth` open brackets.
The second argument is the quote of the run the text starts in, if it starts in one. -/
def closingOffset? (depth : Nat) : Option Char → List Char → Option Nat
  | _, [] => none
  | none, c :: cs =>
    if isOpening c then (closingOffset? (depth + 1) none cs).map (· + 1)
    else if isClosing c then
      match depth with
      | 0 => none
      | 1 => some 0
      | outer + 2 => (closingOffset? (outer + 1) none cs).map (· + 1)
    else if isQuote c then (closingOffset? depth (some c) cs).map (· + 1)
    else (closingOffset? depth none cs).map (· + 1)
  | some quote, '\\' :: cs =>
    -- whatever follows a backslash cannot end the run
    match cs with
    | [] => none
    | _ :: cs => (closingOffset? depth (some quote) cs).map (· + 2)
  | some quote, c :: cs =>
    (closingOffset? depth (if c = quote then none else some quote) cs).map (· + 1)

/-- The place of the bracket that closes the one a text starts with. -/
def balancedEnd? (cs : List Char) : Option Nat :=
  closingOffset? 0 none cs

end Reckon.Lexeme
