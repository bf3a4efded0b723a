/-
# Reckon.Pattern.Size — patterns that are too large

A pattern stands for two automata that read the bytes of a text in UTF-8, one from the start
on and one from the end back. A pattern is refused when either of them would take more than
ten megabytes. This module reckons what they would take, and builds neither: of a state it
notes only that it is there and how many ways lead on from it.

Only sets with characters beyond ASCII need more than that. Their automata share states that
lead on in the same way, and what is shared is looked up in a memo with a fixed number of
slots, where a new entry takes the place of an older one in its slot. Which states are shared
hangs on the numbers of the states, so states are numbered as they are counted.
-/
import Reckon.Pattern.Tree
import Std.Data.HashMap

namespace Reckon.Pattern

/-! ## Counting -/

/-- What an automaton takes so far. -/
structure Footprint where
  states : Nat := 0
  /-- Bytes for the ways that lead on from states. -/
  ways : Nat := 0
deriving Repr

/-- The bytes of an automaton; a state takes thirty-two. -/
def Footprint.bytes (f : Footprint) : Nat :=
  32 * f.states + f.ways

/-- What two parts of an automaton take together. -/
def Footprint.add (f g : Footprint) : Footprint :=
  { states := f.states + g.states, ways := f.ways + g.ways }

/-- The most bytes an automaton may take: ten megabytes. -/
def maxBytes : Nat := 10 * 1024 * 1024

/-- A count of what an automaton takes. It ends early when that is too much. -/
abbrev Count := StateT Footprint Option

/-- The bytes of a way to another state. -/
def wayBytes : Nat := 4

/-- The bytes of a way to another state for a range of bytes. -/
def edgeBytes : Nat := 8

/-- Counts some states and some bytes beside them. -/
def charge (states ways : Nat) : Count Unit := fun f =>
  let f := f.add { states, ways }
  if maxBytes < f.bytes then none else some ((), f)

/-- Counts a state. The result is its number. -/
def newState (ways : Nat) : Count Nat := do
  let number := (← get).states
  charge 1 ways
  return number

/-- Counts something so many times. -/
def Count.times (count : Count Unit) : Nat → Count Unit
  | 0 => pure ()
  | n + 1 => fun f =>
    match count f with
    | none => none
    | some ((), f) => Count.times count n f

/-! ## Memos -/

/-- What has been found before, by slots. -/
abbrev Memo (α : Type) := Std.HashMap Nat (α × Nat)

/-- The slot of some numbers among so many. -/
def slotOf (slots : Nat) (numbers : List Nat) : Nat :=
  let hash := numbers.foldl
    (fun h n => (h ^^^ UInt64.ofNat n) * 1099511628211) (14695981039346656037 : UInt64)
  hash.toNat % slots

/-- The state that a memo has for a key. -/
def Memo.find? {α : Type} [DecidableEq α] (memo : Memo α) (slot : Nat) (key : α) : Option Nat :=
  match memo[slot]? with
  | some (k, state) => if k = key then some state else none
  | none => none

/-! ## Sets beyond ASCII -/

/-- Where a stretch of code points has to be cut, if anywhere: its first part ends with the
result. Code points on both sides of a cut differ in the length of their UTF-8 forms, or the
forms of the stretch are not those that the ranges of their bytes allow. -/
def cut? (first last : Nat) : Option Nat :=
  match [0x7F, 0x7FF, 0xFFFF].find? fun n => first ≤ n && n < last with
  | some n => some n
  | none =>
    if last ≤ 0x7F then none
    else [0x40, 0x1000, 0x40000].findSome? fun block =>
      if first / block = last / block then none
      else if first % block ≠ 0 then some (first / block * block + (block - 1))
      else if last % block ≠ block - 1 then some (last / block * block - 1)
      else none

/-- Cuts a stretch of code points into pieces whose UTF-8 forms are all those that the ranges
of their bytes allow. -/
def pieces (first last : Nat) : List (Nat × Nat) :=
  match cut? first last with
  | none => [(first, last)]
  | some n =>
    if _h : first ≤ n ∧ n < last then pieces first n ++ pieces (n + 1) last else [(first, last)]
termination_by last - first

/-- The parts of a stretch of code points before and after the surrogates. -/
def withoutSurrogates (first last : Nat) : List (Nat × Nat) :=
  if first < 0xE000 ∧ 0xD7FF < last then
    [(first, 0xD7FF), (0xE000, last)].filter fun (a, b) => a ≤ b
  else [(first, last)]

/-- A range of bytes, ends included. -/
abbrev ByteRange := Nat × Nat

/-- The bytes of a code point in UTF-8. -/
def utf8Bytes (n : Nat) : List Nat :=
  (String.utf8EncodeChar (Char.ofNat n)).map UInt8.toNat

/-- The ways to spell the characters of a set, each a list of ranges of bytes, in rising
order. -/
def spellings (s : CharSet) : List (List ByteRange) :=
  s.ranges.flatMap fun (first, last) =>
    (withoutSurrogates first last).flatMap fun (first, last) =>
      (pieces first last).map fun (first, last) => (utf8Bytes first).zip (utf8Bytes last)

/-- The ways that lead on from a state: ranges of bytes, and the states that they lead to. -/
abbrev Edges := List (ByteRange × Nat)

/-- The slots of the memo for states that read from the start on. -/
def forwardSlots : Nat := 10000

/-- A state with some edges: one that is there already, or a new one. -/
def stateFor (edges : Edges) : StateT (Memo Edges) Count Nat := do
  let slot := slotOf forwardSlots (edges.flatMap fun ((a, b), target) => [a, b, target])
  match (← get).find? slot edges with
  | some state => return state
  | none =>
    let state ← newState (edgeBytes * edges.length)
    modify (·.insert slot (edges, state))
    return state

/-- Counts the states for some spellings, which all go on to `target`. The number counts down
how long the spellings are. -/
def countSpellings (target : Nat) : Nat → List (List ByteRange) → StateT (Memo Edges) Count Nat
  | 0, _ => return target
  | length + 1, spellings => do
    let edges ← (spellings.splitBy fun a b => a.head? == b.head?).mapM fun same => do
      let rests := (same.map List.tail).filter (!·.isEmpty)
      let next ← if rests.isEmpty then pure target else countSpellings target length rests
      return (((same.head?.bind List.head?).getD (0, 0)), next)
    stateFor edges

/-- The slots of the memo for states that read from the end back. -/
def backwardSlots : Nat := 1000

/-- Counts the states for one spelling read from its last byte to its first. States that read
the same first bytes are shared. -/
def countBackward (target : Nat) (spelling : List ByteRange) :
    StateT (Memo (Nat × ByteRange)) Count Unit := do
  let mut next := target
  for (a, b) in spelling do
    let slot := slotOf backwardSlots [next, a, b]
    match (← get).find? slot (next, (a, b)) with
    | some state => next := state
    | none =>
      let state ← newState 0
      modify (·.insert slot ((next, (a, b)), state))
      next := state
  charge 0 wayBytes

/-- Counts the states that read one character of a set. -/
def countSet (backward : Bool) (s : CharSet) : Count Unit := do
  if s.isAscii then charge 2 (edgeBytes * s.ranges.length)
  else if backward then
    let _ ← newState 0
    let target ← newState 0
    let _ ← ((spellings s).forM (countBackward target)).run ∅
  else
    let target ← newState 0
    let _ ← (countSpellings target 4 (spellings s)).run ∅

/-! ## Choices among texts -/

/-- Splits a list of texts at the empty ones. -/
def splitAtEmpty : List (List Nat) → List (List (List Nat))
  | [] => [[]]
  | [] :: rest => [] :: splitAtEmpty rest
  | text :: rest =>
    match splitAtEmpty rest with
    | [] => [[text]]
    | texts :: later => (text :: texts) :: later

/-- What a state of a choice among texts takes, with the states after it: as many states as
there are first bytes, and one that prefers the earlier texts. A text that ends here comes
between those before it and those after it. The number counts down how long the texts are. -/
def branchCost : Nat → List (List Nat) → Footprint
  | 0, _ => {}
  | length + 1, texts =>
    -- texts that end here before any other goes on count once
    let ended := texts.takeWhile List.isEmpty
    let texts := ended.take 1 ++ texts.drop ended.length
    let groups := splitAtEmpty texts
    let costs := groups.map fun group =>
      let bytes := (group.map fun text => text.headD 0).eraseDups
      let rests := bytes.map fun b =>
        (group.filter fun text => text.head? == some b).map List.tail
      let later := (rests.filter fun texts => texts.any (!·.isEmpty)).map (branchCost length)
      let own : Footprint :=
        if bytes.isEmpty then {}
        else { states := 1, ways := if bytes.length = 1 then 0 else edgeBytes * bytes.length }
      later.foldl Footprint.add own
    let waysOn := (groups.filter (!·.isEmpty)).length + (groups.length - 1)
    costs.foldl Footprint.add { states := 1, ways := wayBytes * waysOn }

/-- Counts the states of a choice among literal texts. -/
def countTexts (texts : List (List Nat)) : Count Unit :=
  let cost := branchCost ((texts.map List.length).foldl max 0) texts
  charge (cost.states + 1) cost.ways

/-! ## Patterns -/

/-- The bytes of a text in UTF-8. -/
def textBytes (text : List Char) : List Nat :=
  text.flatMap fun c => utf8Bytes c.toNat

/-- The texts of a choice that has literal texts only. -/
def literalTexts? : Tree → Option (List (List Nat))
  | .literal text => some [textBytes text]
  | .choice (.literal text) others => (literalTexts? others).map (textBytes text :: ·)
  | _ => none

/-- Where a pattern stands in a choice. -/
inductive Place where
  /-- First, or in no choice at all. -/
  | first
  | second
  | later
deriving DecidableEq, Repr

/-- Where the others stand. -/
def Place.next : Place → Place
  | first => second
  | second | later => later

/-- Counts what joins a branch to those before it. -/
def countJoin : Place → Count Unit
  | .first => pure ()
  | .second => charge 2 (2 * wayBytes)
  | .later => charge 0 wayBytes

/-- Counts the states of a pattern. -/
def count (backward : Bool) : Place → Tree → Count Unit
  | place, .choice preferred others =>
    match place, literalTexts? (.choice preferred others) with
    | .first, some texts => countTexts (if backward then texts.map List.reverse else texts)
    | place, _ => do
      count backward .first preferred
      countJoin place
      count backward place.next others
  | place, .empty => do charge 1 0; countJoin place
  | place, .look _ => do charge 1 0; countJoin place
  | place, .literal text => do charge (textBytes text).length 0; countJoin place
  | place, .one _ s => do countSet backward s; countJoin place
  | place, .seq a b => do
    if backward then
      count backward .first b
      count backward .first a
    else
      count backward .first a
      count backward .first b
    countJoin place
  | place, .group _ body => do
    if backward then count backward .first body
    else
      charge 1 0
      count backward .first body
      charge 1 0
    countJoin place
  | place, .repeated body atLeast atMost _ => do
    let exactly (n : Nat) : Count Unit :=
      if n = 0 then charge 1 0 else (count backward .first body).times n
    match atLeast, atMost with
    | 0, some 1 =>
      charge 1 0
      count backward .first body
      charge 1 (2 * wayBytes)
    | 0, none =>
      if body.consumes then
        charge 1 0
        count backward .first body
        charge 0 wayBytes
      else
        count backward .first body
        charge 3 (4 * wayBytes)
    | 1, none =>
      count backward .first body
      charge 1 wayBytes
    | n + 2, none =>
      exactly (n + 1)
      count backward .first body
      charge 1 wayBytes
    | n, some m =>
      exactly n
      if n < m then
        charge 1 0
        (do charge 1 0; count backward .first body; charge 0 (2 * wayBytes)).times (m - n)
    countJoin place

/-- Counts the states of a whole pattern. One that can start anywhere has a loop in front; on
the way from the start, groups note their places. -/
def countWhole (backward : Bool) (t : Tree) : Count Unit := do
  if if backward then t.anchoredAtEnd else t.anchoredAtStart then charge 1 0
  else charge 3 (edgeBytes + 2 * wayBytes)
  count backward .first (if backward then t else .group 0 t)
  charge 1 0

/-- Whether a pattern is small enough. -/
def Tree.fits (t : Tree) : Bool :=
  ((countWhole false t).run {}).isSome && ((countWhole true t).run {}).isSome

end Reckon.Pattern
