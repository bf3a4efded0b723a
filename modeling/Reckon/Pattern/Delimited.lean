/-
# Reckon.Pattern.Delimited — patterns between delimiters

The right side of a match is a text such as `/a+/i`: a delimiter, the pattern, the closing
delimiter, and flags. Any character can delimit that is no letter, number, blank or
backslash; an opening bracket is closed by its partner, every other delimiter by itself. The
pattern reaches to the *last* closing delimiter of the text, so it may hold others.
-/
import Reckon.Fault
import Reckon.Pattern.Parser
import Reckon.Pattern.Search

namespace Reckon.Pattern

/-- The character that closes what a delimiter opens. -/
def closingOf : Char → Char
  | '(' => ')'
  | '[' => ']'
  | '{' => '}'
  | '<' => '>'
  | c => c

/-- Whether a character can delimit a pattern. -/
def isDelimiter (c : Char) : Bool :=
  !(Text.isAlphanumeric c || c == '\\' || Text.isBlank c)

/-- Splits a text at the last `c` in it. -/
def splitAtLast? (c : Char) : List Char → Option (List Char × List Char)
  | [] => none
  | x :: xs =>
    match splitAtLast? c xs with
    | some (before, after) => some (x :: before, after)
    | none => if x = c then some ([], xs) else none

/-- Splits a delimited pattern into the pattern and its flags. -/
def splitDelimited (text : List Char) : Except PatternFault (List Char × List Char) :=
  match text with
  | [] => .error .empty
  | c :: rest =>
    if !isDelimiter c then .error .badDelimiter
    else
      match splitAtLast? (closingOf c) rest with
      | some parts => .ok parts
      | none => .error (.unclosed (closingOf c))

/-- Takes the letter of a flag after the closing delimiter. `u` asks for what holds anyway,
and `X` and `J` are accepted without effect. -/
def takeFlag (flags : Flags) : Char → Except PatternFault Flags
  | 'i' => .ok { flags with ignoreCase := true }
  | 'm' => .ok { flags with multiLine := true }
  | 's' => .ok { flags with dotAll := true }
  | 'x' => .ok { flags with extended := true }
  | 'u' => .ok { flags with unicode := true }
  | 'U' => .ok { flags with swapGreed := true }
  | 'X' | 'J' => .ok flags
  | c => .error (.unknownModifier c)

/-- Compiles a delimited pattern. -/
def compileDelimited (text : List Char) : Except PatternFault Program := do
  let (body, letters) ← splitDelimited text
  let flags ← letters.foldlM takeFlag {}
  match Tree.parse? flags body with
  | some tree => return .ofTree tree
  | none => .error .refused

end Reckon.Pattern
