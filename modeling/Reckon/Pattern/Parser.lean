/-
# Reckon.Pattern.Parser — the grammar of patterns

Patterns have literals, classes, conditions, groups, choices and repetitions, and flags that
hold from where they are set to the end of the group around them. There is nothing that
looks ahead or behind by a pattern of its own, and no reference back to what a group matched:
such patterns are refused, like malformed ones, without a reason.

The parser reads a text from left to right and meets every character once; the number that
its functions count down is the length of the text, which no nesting can exceed.
-/
import Reckon.Json.Escape
import Reckon.Pattern.Named
import Reckon.Pattern.Size
import Reckon.Text.Letter

namespace Reckon.Pattern

open Reckon.Text (isBlank isDigit isLetter)

/-- The flags that change how the text of a pattern is read or what it means. -/
structure Flags where
  /-- Letters stand for both of their cases. -/
  ignoreCase : Bool := false
  /-- `^` and `$` hold at the ends of lines. -/
  multiLine : Bool := false
  /-- `.` stands for a line feed as well. -/
  dotAll : Bool := false
  /-- Repetitions are lazy, and greedy where they are marked lazy. -/
  swapGreed : Bool := false
  /-- White space and comments in the pattern stand for nothing. -/
  extended : Bool := false
  /-- Characters beyond ASCII belong to the classes. -/
  unicode : Bool := true
  /-- A carriage return ends a line too. -/
  carriageReturn : Bool := false
deriving DecidableEq, Repr

/-- What the parser carries along: the rest of the text, the flags that hold, how many groups
have been opened, and their names. -/
structure Reading where
  rest : List Char
  flags : Flags
  groups : Nat := 0
  names : List String := []

/-- A parser of part of a pattern; it refuses the pattern by giving no result. -/
abbrev Parser := StateT Reading Option

namespace Parser

/-! ## Single characters -/

/-- Drops white space, and comments from `#` to the end of the line. The argument says
whether the text starts inside a comment. -/
def dropIgnored : Bool → List Char → List Char
  | _, [] => []
  | true, c :: cs => dropIgnored (c != '\n') cs
  | false, c :: cs =>
    if isBlank c then dropIgnored false cs
    else if c == '#' then dropIgnored true cs
    else c :: cs

/-- Drops what the flags say stands for nothing. -/
def skip : Parser Unit := do
  let s ← get
  if s.flags.extended then set { s with rest := dropIgnored false s.rest }

/-- The next character, if there is one. -/
def peek? : Parser (Option Char) := do
  return (← get).rest.head?

/-- The next character. -/
def peek : Parser Char := do
  match (← get).rest with
  | [] => failure
  | c :: _ => return c

/-- Takes the next character. -/
def next : Parser Char := do
  match (← get).rest with
  | [] => failure
  | c :: cs =>
    modify fun s => { s with rest := cs }
    return c

/-- Takes the next character, and drops what stands for nothing after it. -/
def nextSkipping : Parser Char := do
  let c ← next
  skip
  return c

/-- Takes a given text if it comes next. -/
def takeText (text : List Char) : Parser Bool := do
  let s ← get
  if text.isPrefixOf s.rest then
    set { s with rest := s.rest.drop text.length }
    return true
  else return false

/-- The character that comes after some text that stands for nothing, as far as one can tell
without reading comments: white space and the first `#` are passed over, and the text of a
comment is not. If nothing else follows, it is the first character after all. -/
def firstVisible? (cs : List Char) : Option Char :=
  let visible :=
    match cs.dropWhile isBlank with
    | '#' :: comment => comment.dropWhile isBlank
    | cs => cs
  if visible.isEmpty then cs.head? else visible.head?

/-- The character after the next one. -/
def peekSecond? : Parser (Option Char) := do
  let s ← get
  match s.rest with
  | [] => return none
  | _ :: cs => return if s.flags.extended then firstVisible? cs else cs.head?

/-! ## Escapes -/

/-- What an escape or a single character of a pattern is. -/
inductive Primitive where
  | literal (c : Char)
  /-- A byte that is no character. -/
  | byte
  | charClass (s : CharSet)
  | look (l : Look)

/-- The punctuation that has a meaning in patterns. -/
def metaChars : List Char :=
  ['\\', '.', '+', '*', '?', '(', ')', '|', '[', ']', '{', '}', '^', '$', '#', '&', '-', '~']

/-- Whether a backslash before a character makes it stand for itself. -/
def isEscapable (c : Char) : Bool :=
  metaChars.contains c
    || (c.toNat < 128 && !isLetter c && !isDigit c && c != '<' && c != '>')

/-- The value of digits of base sixteen. -/
def hexNumber? (digits : List Char) : Option Nat :=
  digits.foldlM (fun n c => (Json.hexValue? c).map (16 * n + ·)) 0

/-- The character with a number. -/
def charOfNumber (n : Nat) : Parser Char :=
  if n < 0xD800 ∨ (0xE000 ≤ n ∧ n < 0x110000) then pure (Char.ofNat n) else failure

/-- Takes so many digits of base sixteen. -/
def hexDigits : Nat → Parser (List Char)
  | 0 => return []
  | n + 1 => do
    let c ← nextSkipping
    let cs ← hexDigits n
    return c :: cs

/-- Takes characters up to a closing brace, which it takes as well. -/
def untilBrace : Nat → Parser (List Char)
  | 0 => failure
  | n + 1 => do
    let c ← nextSkipping
    if c == '}' then return []
    let cs ← untilBrace n
    return c :: cs

/-- Takes the number of an escape `\x`, `\u` or `\U` after its letter: so many digits, or any
digits in braces. -/
def hexEscape (letter : Char) : Parser Primitive := do
  skip
  let (digits, braced) ←
    if (← peek) == '{' then do
      let _ ← nextSkipping
      let digits ← untilBrace ((← get).rest.length + 1)
      pure (digits, true)
    else do
      let count := if letter == 'x' then 2 else if letter == 'u' then 4 else 8
      let digits ← hexDigits count
      pure (digits, false)
  if digits.isEmpty then failure
  match hexNumber? digits with
  | none => failure
  | some n =>
    if !(← get).flags.unicode && !braced && letter == 'x' && 0x80 ≤ n then return .byte
    return .literal (← charOfNumber n)

/-- A set closed under case if the flags say so. -/
def foldIf (flags : Flags) (s : CharSet) : CharSet :=
  if !flags.ignoreCase then s else if flags.unicode then s.folded else s.asciiFolded

/-- What is not in a set. Outside Unicode that would be bytes that are no characters. -/
def negate (s : CharSet) : Parser CharSet := do
  if (← get).flags.unicode then return s.complement else failure

/-- Takes the name of a property after `\p` or `\P`. -/
def propertyEscape (negated : Bool) : Parser CharSet := do
  skip
  let text ←
    if (← peek) == '{' then do
      let _ ← nextSkipping
      untilBrace ((← get).rest.length + 1)
    else do
      let c ← nextSkipping
      pure [c]
  let flags := (← get).flags
  match namedClass? text with
  | none => failure
  | some s =>
    if !flags.unicode then failure
    if negated then negate (foldIf flags s) else return foldIf flags s

/-- Takes the kind of a word boundary in braces, such as `{start}`, if there is one. Braces
that cannot hold a kind are left alone. -/
def boundaryKind? : Parser (Option String) := do
  let s ← get
  let isKindChar (c : Char) : Bool := isLetter c || c == '-'
  let _ ← nextSkipping
  if !isKindChar (← peek) then
    set s
    return none
  let text ← untilBrace (s.rest.length + 1)
  if text.all isKindChar then return some (String.ofList text) else failure

/-- The condition that `\b` stands for. -/
def boundaryEscape : Parser Look := do
  let u := (← get).flags.unicode
  if (← peek?) == some '{' then
    match ← boundaryKind? with
    | none => return .wordBoundary u
    | some "start" => return .wordStart u
    | some "end" => return .wordEnd u
    | some "start-half" => return .wordStartHalf u
    | some "end-half" => return .wordEndHalf u
    | some _ => failure
  else return .wordBoundary u

/-- Takes what follows a backslash. -/
def escape : Parser Primitive := do
  let c ← next
  let flags := (← get).flags
  if isEscapable c then return .literal c
  match c with
  | 'x' | 'u' | 'U' => hexEscape c
  | 'p' => return .charClass (← propertyEscape false)
  | 'P' => return .charClass (← propertyEscape true)
  | 'd' | 's' | 'w' => return .charClass (escapeClass flags.unicode c)
  | 'D' | 'S' | 'W' => return .charClass (← negate (escapeClass flags.unicode c.toLower))
  | 'a' => return .literal '\x07'
  | 'f' => return .literal '\x0c'
  | 't' => return .literal '\t'
  | 'n' => return .literal '\n'
  | 'r' => return .literal '\r'
  | 'v' => return .literal '\x0b'
  | 'A' => return .look .textStart
  | 'z' => return .look .textEnd
  | 'b' => return .look (← boundaryEscape)
  | 'B' => return .look (.notWordBoundary flags.unicode)
  | '<' => return .look (.wordStart flags.unicode)
  | '>' => return .look (.wordEnd flags.unicode)
  | _ => failure

/-! ## Bracketed classes -/

/-- Takes one character or escape of a class. -/
def classPrimitive : Parser Primitive := do
  let c ← next
  if c == '\\' then escape else return .literal c

/-- The set of a character or escape that stands in a class. -/
def classSet : Primitive → Parser CharSet
  | .literal c => do
    if !(← get).flags.unicode && 0x80 ≤ c.toNat then failure
    return .single c
  | .charClass s => return s
  | .byte => failure
  | .look _ => failure

/-- The character that ends a range. -/
def classLiteral : Primitive → Parser Char
  | .literal c => do
    if !(← get).flags.unicode && 0x80 ≤ c.toNat then failure
    return c
  | _ => failure

/-- Takes a character, an escape or a range of a class. -/
def classRange : Parser CharSet := do
  let first ← classPrimitive
  skip
  if (← peek) != '-' then return ← classSet first
  let second ← peekSecond?
  if second == some ']' || second == some '-' then return ← classSet first
  let _ ← nextSkipping
  let last ← classPrimitive
  let a ← classLiteral first
  let b ← classLiteral last
  if a.toNat ≤ b.toNat then return .range a.toNat b.toNat else failure

/-- Takes an ASCII class `[:name:]` if one comes next. -/
def asciiClass? : Parser (Option CharSet) := do
  let s ← get
  let give (negated : Bool) (body : List Char) : Parser (Option CharSet) := do
    let name := body.takeWhile (· != ':')
    match body.drop name.length, asciiClasses.lookup (String.ofList name) with
    | ':' :: ']' :: rest, some chars =>
      set { s with rest := rest }
      let chars := foldIf s.flags chars
      return some (← if negated then negate chars else pure chars)
    | _, _ => return none
  match s.rest with
  | '[' :: ':' :: '^' :: body => give true body
  | '[' :: ':' :: body => give false body
  | _ => return none

/-- The operators between parts of a class. -/
inductive ClassOperator where
  | intersection | difference | symmetricDifference
deriving DecidableEq, Repr

/-- A part of a class that has been read: its set, and how deeply its text nests. -/
structure ClassPart where
  set : CharSet := .empty
  items : Nat := 0
  depth : Nat := 0

/-- Adds an item to a part. -/
def ClassPart.add (p : ClassPart) (s : CharSet) (depth : Nat) : ClassPart :=
  { set := if p.items = 0 then s else .union p.set s
    items := p.items + 1
    depth := max p.depth depth }

/-- How deeply a part nests, as a union of its items if there are several. -/
def ClassPart.nesting (p : ClassPart) : Nat :=
  if p.items ≤ 1 then p.depth else p.depth + 1

/-- Joins what stands to the left of an operator with the part to its right. -/
def joinParts (flags : Flags) (left : Option (ClassOperator × CharSet × Nat))
    (right : ClassPart) : CharSet × Nat :=
  match left with
  | none => (right.set, right.nesting)
  | some (op, a, depth) =>
    let a := foldIf flags a
    let b := foldIf flags right.set
    let joined :=
      match op with
      | .intersection => .intersection a b
      | .difference => .difference a b
      | .symmetricDifference => .symmetricDifference a b
    (joined, max depth right.nesting + 1)

/-- Takes hyphens at the start of a class, which stand for themselves. -/
def leadingHyphens : Nat → ClassPart → Parser ClassPart
  | 0, p => return p
  | n + 1, p => do
    if (← peek) == '-' then
      let _ ← nextSkipping
      leadingHyphens n (p.add (.single '-') 0)
    else return p

/-- Takes the start of a class after its bracket: a complement sign, and hyphens or a closing
bracket that stand for themselves. -/
def classStart : Parser (Bool × ClassPart) := do
  skip
  let negated := (← peek) == '^'
  if negated then
    let _ ← nextSkipping
  let p ← leadingHyphens ((← get).rest.length) {}
  if p.items = 0 && (← peek) == ']' then
    let _ ← nextSkipping
    if (← peek?).isNone then failure
    return (negated, p.add (.single ']') 0)
  else return (negated, p)

/-- The operator that comes next, if one does. -/
def classOperator? : Parser (Option ClassOperator) := do
  match (← get).rest with
  | '&' :: '&' :: _ => return some .intersection
  | '-' :: '-' :: _ => return some .difference
  | '~' :: '~' :: _ => return some .symmetricDifference
  | _ => return none

/-- Takes the rest of a class, up to and with its closing bracket. The result is the set and
how deeply the text nests. -/
def classRest : Nat → Bool → Option (ClassOperator × CharSet × Nat) → ClassPart →
    Parser (CharSet × Nat)
  | 0, _, _, _ => failure
  | fuel + 1, negated, left, part => do
    skip
    let c ← peek
    if c == '[' then
      match ← asciiClass? with
      | some s => classRest fuel negated left (part.add s 0)
      | none =>
        let _ ← next
        let (negatedInside, start) ← classStart
        let (s, depth) ← classRest fuel negatedInside none start
        classRest fuel negated left (part.add s depth)
    else if c == ']' then
      let _ ← next
      let flags := (← get).flags
      let (s, depth) := joinParts flags left part
      let s := foldIf flags s
      return (← if negated then negate s else pure s, depth + 1)
    else
      match ← classOperator? with
      | some op =>
        let _ ← next
        let _ ← next
        let (s, depth) := joinParts (← get).flags left part
        classRest fuel negated (some (op, s, depth)) {}
      | none =>
        let s ← classRange
        classRest fuel negated left (part.add s 0)

/-- Takes a bracketed class. -/
def bracketed : Parser (CharSet × Nat) := do
  let _ ← next
  let (negated, start) ← classStart
  classRest ((← get).rest.length + 1) negated none start

/-! ## Repetitions, groups and sequences -/

/-- A part of a sequence: what it means, and how deeply its text nests. Flags are a part that
cannot be repeated. -/
structure Part where
  tree : Tree
  depth : Nat := 0
  isFlags : Bool := false

/-- A part that reads one character of a set. -/
def setPart (s : CharSet) (depth : Nat) : Parser Part := do
  return { tree := .ofSet (← get).flags.unicode s, depth }

/-- The part of a single character or escape. -/
def primitivePart : Primitive → Parser Part
  | .literal c => do
    let flags := (← get).flags
    if flags.unicode || c.toNat < 0x80 then setPart (foldIf flags (.single c)) 0
    else return { tree := .literal [c] }
  | .byte => failure
  | .charClass s => setPart s 0
  | .look l => return { tree := .look l }

/-- The set that `.` stands for. Outside Unicode it would stand for bytes that are no
characters. -/
def dotSet : Parser CharSet := do
  let flags := (← get).flags
  if !flags.unicode then failure
  if flags.dotAll then return .all
  if flags.carriageReturn then return (CharSet.ofChars ['\n', '\r']).complement
  return (CharSet.single '\n').complement

/-- Takes a character or escape that is no operator of patterns. -/
def primitive : Parser Part := do
  let c ← next
  let flags := (← get).flags
  match c with
  | '\\' => primitivePart (← escape)
  | '.' => setPart (← dotSet) 0
  | '^' =>
    return { tree := .look (if !flags.multiLine then .textStart
                            else if flags.carriageReturn then .lineStartCR else .lineStart) }
  | '$' =>
    return { tree := .look (if !flags.multiLine then .textEnd
                            else if flags.carriageReturn then .lineEndCR else .lineEnd) }
  | c => primitivePart (.literal c)

/-- Takes a question mark, which marks a lazy repetition. The result says whether the
repetition is greedy. -/
def greedMark : Parser Bool := do
  let swap := (← get).flags.swapGreed
  if (← peek?) == some '?' then
    let _ ← next
    return swap
  else return !swap

/-- Repeats the last part of a sequence, which is written with its last part first. -/
def repeatLast (parts : List Part) (atLeast : Nat) (atMost : Option Nat) (greedy : Bool) :
    Parser (List Part) :=
  match parts with
  | [] => failure
  | p :: ps =>
    if p.isFlags then failure
    else return { tree := p.tree.times atLeast atMost greedy, depth := p.depth + 1 } :: ps

/-- Takes a number of a counted repetition, and the white space around it. -/
def count : Parser Nat := do
  modify fun s => { s with rest := s.rest.dropWhile isBlank }
  let digits ← digitsFrom ((← get).rest.length)
  modify fun s => { s with rest := s.rest.dropWhile isBlank }
  skip
  let n := digits.foldl (fun n c => 10 * n + (c.toNat - '0'.toNat)) 0
  if digits.isEmpty || UInt32.size ≤ n then failure else return n
where
  /-- Takes digits one by one. -/
  digitsFrom : Nat → Parser (List Char)
    | 0 => return []
    | n + 1 => do
      match ← peek? with
      | none => return []
      | some c =>
        if isDigit c then
          let _ ← nextSkipping
          let cs ← digitsFrom n
          return c :: cs
        else return []

/-- Takes a counted repetition such as `{2}`, `{2,}` or `{2,5}`. -/
def counted (parts : List Part) : Parser (List Part) := do
  let _ ← nextSkipping
  let atLeast ← count
  let atMost ←
    if (← peek) == ',' then do
      let _ ← nextSkipping
      if (← peek) == '}' then pure none
      else do
        let n ← count
        pure (some n)
    else pure (some atLeast)
  if (← peek) != '}' then failure
  let _ ← nextSkipping
  let greedy ← greedMark
  if atMost.any (· < atLeast) then failure
  repeatLast parts atLeast atMost greedy

/-- Takes the name of a group after `<`, up to and with the closing bracket. -/
def groupName : Nat → Bool → Parser (List Char)
  | 0, _ => failure
  | fuel + 1, first => do
    let c ← next
    if c == '>' then return []
    let ok :=
      if first then c == '_' || Text.isAlphabetic c
      else c == '_' || c == '.' || c == '[' || c == ']' || Text.isAlphanumeric c
    if !ok then failure
    let cs ← groupName fuel false
    return c :: cs

/-- Sets or clears one flag. -/
def setFlag (flags : Flags) (on : Bool) : Char → Option Flags
  | 'i' => some { flags with ignoreCase := on }
  | 'm' => some { flags with multiLine := on }
  | 's' => some { flags with dotAll := on }
  | 'U' => some { flags with swapGreed := on }
  | 'u' => some { flags with unicode := on }
  | 'R' => some { flags with carriageReturn := on }
  | 'x' => some { flags with extended := on }
  | _ => none

/-- Takes flags up to a colon or a closing parenthesis. The result has the flags as changed
and the character after them. A flag may occur once, a hyphen once and not last. -/
def flagChanges : Nat → Flags → List Char → Parser (Flags × Bool × Char)
  | 0, _, _ => failure
  | fuel + 1, flags, seen => do
    let c ← next
    if c == ':' || c == ')' then
      if seen.head? == some '-' then failure
      return (flags, seen.isEmpty, c)
    if seen.contains c then failure
    if c == '-' then flagChanges fuel flags (c :: seen)
    else
      match setFlag flags (!seen.contains '-') c with
      | none => failure
      | some flags => flagChanges fuel flags (c :: seen)

/-- What the text after an opening parenthesis starts. -/
inductive Opening where
  /-- Flags for the rest of the group around them. -/
  | flags
  /-- A group that remembers its match, by its number. -/
  | capture (number : Nat)
  | plain

/-- Gives a number to a group that remembers its match. -/
def openCapture : Parser Nat := do
  let s ← get
  set { s with groups := s.groups + 1 }
  return s.groups + 1

/-- Takes what follows an opening parenthesis, up to where the body starts. -/
def opening : Parser Opening := do
  skip
  let s ← get
  match s.rest with
  | '?' :: '=' :: _ | '?' :: '!' :: _ | '?' :: '<' :: '=' :: _ | '?' :: '<' :: '!' :: _ =>
    failure
  | _ =>
    if (← takeText ['?', 'P', '<']) || (← takeText ['?', '<']) then
      let number ← openCapture
      let name := String.ofList (← groupName (s.rest.length + 1) true)
      if name == "" || s.names.contains name then failure
      modify fun s => { s with names := name :: s.names }
      return .capture number
    else if ← takeText ['?'] then
      let (flags, unchanged, last) ← flagChanges (s.rest.length + 1) s.flags []
      if last == ')' && unchanged then failure
      modify fun s => { s with flags := flags }
      return if last == ')' then .flags else .plain
    else return .capture (← openCapture)

/-- Ends a sequence, which is written with its last part first. -/
def sequencePart (parts : List Part) : Part :=
  let depth := parts.foldl (fun d p => max d p.depth) 0
  { tree := Tree.sequence (parts.reverse.map (·.tree))
    depth := if parts.length ≤ 1 then depth else depth + 1 }

/-- Ends a choice, whose sequences are written with the last one first. -/
def choicePart (sequences : List Part) : Part :=
  let depth := sequences.foldl (fun d p => max d p.depth) 0
  { tree := Tree.alternatives (sequences.reverse.map (·.tree))
    depth := if sequences.length ≤ 1 then depth else depth + 1 }

/-- Takes a choice of sequences up to a closing parenthesis or the end of the text. The
arguments hold the sequences that are complete and the parts of the one being read, the
latest first. -/
def choiceFrom : Nat → List Part → List Part → Parser Part
  | 0, _, _ => failure
  | fuel + 1, done, parts => do
    skip
    match ← peek? with
    | none => return choicePart (sequencePart parts :: done)
    | some ')' => return choicePart (sequencePart parts :: done)
    | some '|' =>
      let _ ← next
      choiceFrom fuel (sequencePart parts :: done) []
    | some '(' =>
      let _ ← next
      let outside := (← get).flags
      match ← opening with
      | .flags => choiceFrom fuel done ({ tree := .empty, isFlags := true } :: parts)
      | kind =>
        -- a group gives back the flags that held before it, those of its own head included
        let body ← choiceFrom fuel [] []
        if (← peek) != ')' then failure
        let _ ← next
        modify fun s => { s with flags := outside }
        let tree :=
          match kind with
          | .capture number => .group number body.tree
          | _ => body.tree
        choiceFrom fuel done ({ tree, depth := body.depth + 1 } :: parts)
    | some '[' =>
      let (s, depth) ← bracketed
      choiceFrom fuel done ((← setPart s depth) :: parts)
    | some '?' =>
      let _ ← next
      choiceFrom fuel done (← repeatLast parts 0 (some 1) (← greedMark))
    | some '*' =>
      let _ ← next
      choiceFrom fuel done (← repeatLast parts 0 none (← greedMark))
    | some '+' =>
      let _ ← next
      choiceFrom fuel done (← repeatLast parts 1 none (← greedMark))
    | some '{' => choiceFrom fuel done (← counted parts)
    | some _ =>
      let p ← primitive
      choiceFrom fuel done (p :: parts)

end Parser

/-- How deeply the parts of a pattern may nest. -/
def maxNesting : Nat := 250

/-- Reads a whole pattern under the flags it starts with. Patterns that nest too deeply or
would be too large are refused. -/
def Tree.parse? (flags : Flags) (text : List Char) : Option Tree :=
  match (Parser.choiceFrom (text.length + 1) [] []).run { rest := text, flags } with
  | none => none
  | some (part, s) =>
    if s.rest.isEmpty && part.depth ≤ maxNesting && part.tree.fits then some part.tree
    else none

end Reckon.Pattern
