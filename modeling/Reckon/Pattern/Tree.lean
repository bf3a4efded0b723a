/-
# Reckon.Pattern.Tree — what a pattern means

A pattern describes texts by literal texts and sets of characters, by conditions on the place
between two characters, and by sequence, choice and repetition; groups remember what they
matched. A choice prefers its earlier branches, a greedy repetition prefers to go on and a
lazy one to stop.

Patterns are put together by `sequence`, `alternatives`, `times` and `ofSet`, which bring
them into a simple form. Most of that changes no match. Three laws do, and they decide what a
pattern matches: nothing is repeated zero times, not even a group; what can only match the
empty text is repeated at most once; and branches of a choice that all start with the same
parts give those parts up to the sequence around them. So `.*b|.*c` means `.*(?:b|c)`, and
prefers the later `c` of `abac` to the earlier `b`.
-/
import Reckon.Pattern.Database.Binary
import Reckon.Text.Blank

namespace Reckon.Pattern

/-- A condition on the place between two characters of the text. -/
inductive Look where
  | textStart | textEnd
  | lineStart | lineEnd
  /-- Lines may end with a carriage return, a line feed, or both. -/
  | lineStartCR | lineEndCR
  | wordBoundary (unicode : Bool)
  | notWordBoundary (unicode : Bool)
  | wordStart (unicode : Bool)
  | wordEnd (unicode : Bool)
  | wordStartHalf (unicode : Bool)
  | wordEndHalf (unicode : Bool)
deriving DecidableEq, Repr

/-- Whether a character belongs to a word, in ASCII or in any script. -/
def inWord (unicode : Bool) : Option Char → Bool
  | none => false
  | some c => if unicode then Database.wordChars.contains c else Text.isNameChar c

/-- Whether a condition holds between two characters; there is none at an end of the
text. -/
def Look.holds (before after : Option Char) : Look → Bool
  | textStart => before.isNone
  | textEnd => after.isNone
  | lineStart => before.isNone || before == some '\n'
  | lineEnd => after.isNone || after == some '\n'
  | lineStartCR =>
    before.isNone || before == some '\n' || (before == some '\r' && after != some '\n')
  | lineEndCR =>
    after.isNone || after == some '\r' || (after == some '\n' && before != some '\r')
  | wordBoundary u => inWord u before != inWord u after
  | notWordBoundary u => inWord u before == inWord u after
  | wordStart u => !inWord u before && inWord u after
  | wordEnd u => inWord u before && !inWord u after
  | wordStartHalf u => !inWord u before
  | wordEndHalf u => !inWord u after

/-- The meaning of a pattern. A sequence holds its first part and the sequence of the others,
and a choice likewise. -/
inductive Tree where
  | empty
  /-- A text that is not empty, character by character. -/
  | literal (text : List Char)
  /-- One character of a set. The set was written with all of Unicode in mind, or with ASCII
  only; the two are not the same part of a pattern, even if the sets are equal. -/
  | one (unicode : Bool) (s : CharSet)
  | look (l : Look)
  | seq (first rest : Tree)
  | choice (preferred others : Tree)
  /-- A group that remembers its match; the groups are counted from one. -/
  | group (number : Nat) (body : Tree)
  | repeated (body : Tree) (atLeast : Nat) (atMost : Option Nat) (greedy : Bool)
deriving DecidableEq, Repr

namespace Tree

/-! ## Lengths and anchors -/

/-- Whether a pattern can only match the empty text. -/
def onlyEmpty : Tree → Bool
  | empty => true
  | literal _ => false
  | one _ _ => false
  | look _ => true
  | seq a b => a.onlyEmpty && b.onlyEmpty
  | choice a b => a.onlyEmpty && b.onlyEmpty
  | group _ body => body.onlyEmpty
  | repeated body _ atMost _ => body.onlyEmpty && atMost.isSome

/-- The least number of characters in a match. A pattern with a part that matches nothing at
all has none. -/
def minLength? : Tree → Option Nat
  | empty => some 0
  | literal text => some text.length
  | one _ s => if s.ranges.isEmpty then none else some 1
  | look _ => some 0
  | seq a b => do return (← a.minLength?) + (← b.minLength?)
  | choice a b => do return min (← a.minLength?) (← b.minLength?)
  | group _ body => body.minLength?
  | repeated body atLeast _ _ => body.minLength?.map (atLeast * ·)

/-- Whether a pattern uses up at least one character in every match. -/
def consumes (t : Tree) : Bool :=
  t.minLength?.any (0 < ·)

/-- Whether every match of a pattern starts at the start of the text, as far as its first
parts tell. -/
def anchoredAtStart : Tree → Bool
  | look l => l == .textStart
  | seq a b => a.anchoredAtStart || (a.onlyEmpty && b.anchoredAtStart)
  | choice a b => a.anchoredAtStart && b.anchoredAtStart
  | group _ body => body.anchoredAtStart
  | repeated body atLeast _ _ => atLeast != 0 && body.anchoredAtStart
  | _ => false

/-- Whether every match of a pattern ends at the end of the text, as far as its last parts
tell. -/
def anchoredAtEnd : Tree → Bool
  | look l => l == .textEnd
  | seq a b => b.anchoredAtEnd || (b.onlyEmpty && a.anchoredAtEnd)
  | choice a b => a.anchoredAtEnd && b.anchoredAtEnd
  | group _ body => body.anchoredAtEnd
  | repeated body atLeast _ _ => atLeast != 0 && body.anchoredAtEnd
  | _ => false

/-- The number of the last group in the pattern, or zero. -/
def lastGroup : Tree → Nat
  | empty | literal _ | one _ _ | look _ => 0
  | seq a b => max a.lastGroup b.lastGroup
  | choice a b => max a.lastGroup b.lastGroup
  | group n body => max n body.lastGroup
  | repeated body _ _ _ => body.lastGroup

/-! ## Single characters and repetitions -/

/-- The pattern that matches nothing. -/
def nothing : Tree := one false .empty

/-- One character of a set; of a set with one member, that is a literal. -/
def ofSet (unicode : Bool) (s : CharSet) : Tree :=
  match s.ranges with
  | [] => nothing
  | [(first, last)] => if first = last then literal [Char.ofNat first] else one unicode s
  | _ => one unicode s

/-- A repetition. -/
def times (body : Tree) (atLeast : Nat) (atMost : Option Nat) (greedy : Bool) : Tree :=
  let (atLeast, atMost) :=
    if body.onlyEmpty then (min atLeast 1, some (min (atMost.getD 1) 1))
    else (atLeast, atMost)
  if atMost = some 0 then empty
  else if atLeast = 1 ∧ atMost = some 1 then body
  else repeated body atLeast atMost greedy

/-! ## Sequences -/

/-- The parts of a pattern as a sequence. -/
def parts : Tree → List Tree
  | empty => []
  | seq a b => a :: b.parts
  | t => [t]

/-- Puts a part before others, and a literal together with the literal that follows. -/
def prepend (part : Tree) (rest : List Tree) : List Tree :=
  match part, rest with
  | literal text, literal more :: rest => literal (text ++ more) :: rest
  | part, rest => part :: rest

/-- The pattern of parts that are simple already. -/
def ofParts : List Tree → Tree
  | [] => empty
  | [t] => t
  | t :: ts => seq t (ofParts ts)

/-- The sequence of some patterns. -/
def sequence (ts : List Tree) : Tree :=
  ofParts ((ts.flatMap parts).foldr prepend [])

/-! ## Choices -/

/-- The branches of a pattern as a choice. -/
def branches : Tree → List Tree
  | choice a b => a :: b.branches
  | t => [t]

/-- The choice of branches that are simple already. -/
def ofBranches : List Tree → Tree
  | [] => nothing
  | [t] => t
  | t :: ts => choice t (ofBranches ts)

/-- The character that is all that a pattern matches. -/
def char? : Tree → Option Char
  | literal [c] => some c
  | _ => none

/-- The set whose characters are all that a pattern matches. -/
def set? : Tree → Option CharSet
  | one _ s => some s
  | _ => none

/-- A choice among single characters, or among sets of characters, as one set. -/
def asSet? (branches : List Tree) : Option Tree :=
  match branches.mapM char?, branches.mapM set? with
  | some cs, _ => some (ofSet true (.ofChars cs))
  | none, some sets => some (ofSet true (sets.foldl CharSet.union .empty))
  | none, none => none

/-- What two lists start with alike. -/
def commonStart : List Tree → List Tree → List Tree
  | a :: as, b :: bs => if a = b then a :: commonStart as bs else []
  | _, _ => []

/-- The parts that all branches of a choice start with. There are none unless every branch is
a sequence of several parts. -/
def sharedStart (branches : List Tree) : List Tree :=
  match branches.map parts with
  | [] => []
  | first :: others =>
    if (first :: others).all (2 ≤ ·.length) then others.foldl commonStart first else []

/-- The choice among some patterns, the earlier ones preferred. -/
def alternatives (ts : List Tree) : Tree :=
  let branches := ts.flatMap branches
  match branches with
  | [t] => t
  | _ =>
    match asSet? branches, sharedStart branches with
    | some t, _ => t
    | none, [] => ofBranches branches
    | none, start =>
      let rests := branches.flatMap fun t => (ofParts (t.parts.drop start.length)).branches
      sequence (start ++ [(asSet? rests).getD (ofBranches rests)])

end Tree

end Reckon.Pattern
