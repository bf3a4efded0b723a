/-
# Reckon.Pattern.CharSet — sets of characters

A set of characters is the list of the ranges of code points that it is made of, in rising
order and with a gap after each. So there is one list for one set, and two parts of a pattern
that read the same characters can be compared by comparing lists.

Surrogates are no characters. A range may reach over all of them, and no range ends on one:
the code point after U+D7FF is U+E000.
-/
import Reckon.Json.Escape
import Reckon.Text.Folding

namespace Reckon.Pattern

/-- A set of characters. -/
structure CharSet where
  /-- First and last code points of the ranges. -/
  ranges : List (Nat × Nat)
deriving DecidableEq, Repr

namespace CharSet

/-! ## Making sets -/

/-- The last code point there is. -/
def lastCode : Nat := 0x10FFFF

/-- Joins ranges that overlap or touch to the range before them, which is `first` to
`last`. -/
def joinFrom (first last : Nat) : List (Nat × Nat) → List (Nat × Nat)
  | [] => [(first, last)]
  | (a, b) :: rest =>
    if a ≤ last + 1 then joinFrom first (max last b) rest
    else (first, last) :: joinFrom a b rest

/-- The set that some ranges cover, whatever their order. -/
def ofRanges (ranges : List (Nat × Nat)) : CharSet :=
  match ranges.mergeSort fun r s => r.1 ≤ s.1 with
  | [] => ⟨[]⟩
  | (first, last) :: rest => ⟨joinFrom first last rest⟩

/-- The set without characters. -/
def empty : CharSet := ⟨[]⟩

/-- The set of all characters. -/
def all : CharSet := ⟨[(0, lastCode)]⟩

/-- The characters from one code point to another. -/
def range (first last : Nat) : CharSet := ⟨[(first, last)]⟩

/-- The set of one character. -/
def single (c : Char) : CharSet := range c.toNat c.toNat

/-- The set of some characters. -/
def ofChars (cs : List Char) : CharSet :=
  ofRanges (cs.map fun c => (c.toNat, c.toNat))

/-- The code point that digits of base sixteen spell; other characters are passed over. -/
def codeOfHex (digits : String) : Nat :=
  digits.toList.foldl (fun n c => 16 * n + (Json.hexValue? c).getD 0) 0

/-- The range of a text such as `41-5A`, or of `AA` for a single code point. -/
def rangeOfText (text : String) : Nat × Nat :=
  match text.splitOn "-" with
  | [first, last] => (codeOfHex first, codeOfHex last)
  | _ => (codeOfHex text, codeOfHex text)

/-- The set of ranges that are written in base sixteen, with spaces between them. -/
def ofText (lines : List String) : CharSet :=
  ofRanges (lines.flatMap fun line => (line.splitOn " ").map rangeOfText)

/-! ## What is in a set -/

/-- Whether a code point is in one of some ranges in rising order. -/
def covers (n : Nat) : List (Nat × Nat) → Bool
  | [] => false
  | (first, last) :: rest => first ≤ n && (n ≤ last || covers n rest)

/-- Whether a character is in a set. -/
def contains (s : CharSet) (c : Char) : Bool :=
  covers c.toNat s.ranges

/-- Whether all characters of a set are ASCII characters. -/
def isAscii (s : CharSet) : Bool :=
  s.ranges.all fun (_, last) => last < 0x80

/-! ## Sets made of others -/

/-- The characters that are in one of two sets, or in both. -/
def union (a b : CharSet) : CharSet :=
  ofRanges (a.ranges ++ b.ranges)

/-- What two lists of ranges have in common. The list whose first range ends first goes on. -/
def overlaps : List (Nat × Nat) → List (Nat × Nat) → List (Nat × Nat)
  | [], _ => []
  | _, [] => []
  | (a, b) :: rs, (c, d) :: ss =>
    let rest := if b < d then overlaps rs ((c, d) :: ss) else overlaps ((a, b) :: rs) ss
    if max a c ≤ min b d then (max a c, min b d) :: rest else rest
termination_by rs ss => rs.length + ss.length

/-- The characters that are in both of two sets. -/
def intersection (a b : CharSet) : CharSet :=
  ⟨overlaps a.ranges b.ranges⟩

/-- The code point after one, surrogates apart. -/
def codeAfter (n : Nat) : Nat :=
  if n = 0xD7FF then 0xE000 else n + 1

/-- The code point before one, surrogates apart. -/
def codeBefore (n : Nat) : Nat :=
  if n = 0xE000 then 0xD7FF else n - 1

/-- The gaps after a code point and between the ranges that follow it. A gap of nothing but
surrogates comes out with its ends exchanged. -/
def gapsAfter (last : Nat) : List (Nat × Nat) → List (Nat × Nat)
  | [] => if last < lastCode then [(codeAfter last, lastCode)] else []
  | (a, b) :: rest => (codeAfter last, codeBefore a) :: gapsAfter b rest

/-- The gaps around and between the ranges of a set. -/
def gaps (s : CharSet) : List (Nat × Nat) :=
  match s.ranges with
  | [] => [(0, lastCode)]
  | (a, b) :: rest => (if 0 < a then [(0, codeBefore a)] else []) ++ gapsAfter b rest

/-- The characters that are in one set and not in another. -/
def difference (a b : CharSet) : CharSet :=
  ⟨overlaps a.ranges (b.gaps.filter fun (first, last) => first ≤ last)⟩

/-- The characters that are not in a set. There is one exception: of a set that has U+D7FF
and U+E000 in two ranges, the complement has both of them too, since the gap of surrogates
between them is turned round and not dropped. -/
def complement (s : CharSet) : CharSet :=
  ⟨s.gaps.map fun (first, last) => (min first last, max first last)⟩

/-- The characters that are in exactly one of two sets. -/
def symmetricDifference (a b : CharSet) : CharSet :=
  (a.union b).difference (a.intersection b)

/-- The set together with the characters that some pairs relate to one of its own. -/
def closedUnder (pairs : List (Nat × Nat)) (s : CharSet) : CharSet :=
  let partners := pairs.flatMap fun (a, b) =>
    (if covers a s.ranges then [(b, b)] else []) ++ (if covers b s.ranges then [(a, a)] else [])
  ofRanges (s.ranges ++ partners)

/-- The set together with all characters that differ from one of its own in case only. -/
def folded (s : CharSet) : CharSet :=
  s.closedUnder Text.foldingPairs

/-- The set together with the other cases of its ASCII letters. -/
def asciiFolded (s : CharSet) : CharSet :=
  s.closedUnder ((List.range 26).map fun n => (0x41 + n, 0x61 + n))

end CharSet

end Reckon.Pattern
