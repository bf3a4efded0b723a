/-
# Reckon.Proofs.Json.Spelling — the texts of a value

A value can be written as JSON in many ways: with white space between the tokens, with other
escapes in its strings, with its members in another order, and with other digits for its numbers.
`Spells` says which texts these are, without regard to how a text is read. A number is the one
thing that no grammar of texts pins down, so of a numeral it is said that it is read as the number.
-/
import Reckon.Json.Printer
import Reckon.Json.Reader
import Reckon.Proofs.Number.Notation

namespace Reckon

/-! ## Nesting and finite numbers -/

namespace Value

mutual

/-- How deep arrays and objects nest in a value: not at all in a scalar. -/
def depth : Value → Nat
  | .array items => itemsDepth items + 1
  | .object members => membersDepth members + 1
  | _ => 0

/-- How deep arrays and objects nest in the items of an array. -/
def itemsDepth : List Value → Nat
  | [] => 0
  | v :: rest => max (depth v) (itemsDepth rest)

/-- How deep arrays and objects nest in the members of an object. -/
def membersDepth : List (String × Value) → Nat
  | [] => 0
  | (_, v) :: rest => max (depth v) (membersDepth rest)

end

theorem depth_le_itemsDepth {v : Value} {items : List Value} (h : v ∈ items) :
    v.depth ≤ itemsDepth items := by
  induction items with
  | nil => cases h
  | cons w rest ih =>
      rw [itemsDepth]
      rcases List.mem_cons.1 h with rfl | h
      · exact le_max_left _ _
      · exact (ih h).trans (le_max_right _ _)

theorem depth_le_membersDepth {m : String × Value} {members : List (String × Value)}
    (h : m ∈ members) : m.2.depth ≤ membersDepth members := by
  induction members with
  | nil => cases h
  | cons n rest ih =>
      rw [membersDepth]
      rcases List.mem_cons.1 h with rfl | h
      · exact le_max_left _ _
      · exact (ih h).trans (le_max_right _ _)

/-- Every number in the value is finite. -/
inductive HasFiniteNumbers : Value → Prop
  | null : HasFiniteNumbers null
  | bool (b : Bool) : HasFiniteNumbers (bool b)
  | number (x : Float) (finite : x.isFinite = true) : HasFiniteNumbers (number x)
  | text (s : String) : HasFiniteNumbers (text s)
  | array (items : List Value) (each : ∀ v ∈ items, HasFiniteNumbers v) :
      HasFiniteNumbers (array items)
  | object (members : List (String × Value)) (each : ∀ m ∈ members, HasFiniteNumbers m.2) :
      HasFiniteNumbers (object members)

end Value

namespace Json

open Number (isNumeralChar)
open Value (HasFiniteNumbers)

variable {cs : List Char} {c : Char} {v : Value}

/-! ## Strings -/

/-- The escapes with one letter after the backslash, and the characters they spell. -/
def letterEscapes : List (Char × Char) :=
  [('"', '"'), ('\\', '\\'), ('/', '/'), ('b', '\x08'), ('f', '\x0c'), ('n', '\n'), ('r', '\r'),
    ('t', '\t')]

/-- The text after a backslash spells the character: a letter, the four digits of a code unit, or
the digits of two surrogates. -/
inductive SpellsEscape : Char → List Char → Prop
  | letter {letter c : Char} : (letter, c) ∈ letterEscapes → SpellsEscape c [letter]
  | unit {digits : List Char} {n : Nat} : readUnit? digits = some (n, []) →
      n < 0xD800 ∨ 0xDFFF < n → SpellsEscape (Char.ofNat n) ('u' :: digits)
  | pair {digits digits' : List Char} {high low : Nat} : readUnit? digits = some (high, []) →
      readUnit? digits' = some (low, []) → 0xD800 ≤ high → high ≤ 0xDBFF → 0xDC00 ≤ low →
      low ≤ 0xDFFF →
      SpellsEscape (Char.ofNat (0x10000 + (high - 0xD800) * 0x400 + (low - 0xDC00)))
        ('u' :: digits ++ '\\' :: 'u' :: digits')

/-- The text between the quotes of a string spells its characters, each as itself or behind a
backslash. -/
inductive SpellsBody : List Char → List Char → Prop
  | nil : SpellsBody [] []
  | plain {c : Char} {s cs : List Char} : c ≠ '"' → c ≠ '\\' → 0x20 ≤ c.toNat →
      SpellsBody s cs → SpellsBody (c :: s) (c :: cs)
  | escaped {c : Char} {s cs escape : List Char} : SpellsEscape c escape →
      SpellsBody s cs → SpellsBody (c :: s) ('\\' :: escape ++ cs)

/-- The text is that of a string, with its quotes. -/
def SpellsString (s : String) (cs : List Char) : Prop :=
  ∃ body, cs = '"' :: body ++ ['"'] ∧ SpellsBody s.toList body

/-! ## Values -/

/-- A text with white space around it. -/
structure Padded where
  before : List Char
  text : List Char
  after : List Char
  blank : ∀ c ∈ before ++ after, isSpace c = true

/-- A text without white space around it. -/
def Padded.bare (text : List Char) : Padded where
  before := []
  text := text
  after := []
  blank := nofun

/-- The text with the white space. -/
def Padded.toList (p : Padded) : List Char :=
  p.before ++ p.text ++ p.after

@[simp]
theorem Padded.toList_bare (text : List Char) : (bare text).toList = text :=
  List.append_nil text

/-- The items of an array, with commas between them. -/
def itemsText (items : List (Value × Padded)) : List Char :=
  [','].intercalate (items.map fun i => i.2.toList)

/-- The members of an object, each with the texts of its name and of its value, with commas
between them. -/
def membersText (parts : List ((String × Value) × Padded × Padded)) : List Char :=
  [','].intercalate (parts.map fun m => m.2.1.toList ++ ':' :: m.2.2.toList)

/-- The text is one of the value. -/
inductive Spells : Value → List Char → Prop
  | null : Spells .null ['n', 'u', 'l', 'l']
  | bool (b : Bool) :
      Spells (.bool b) (if b then ['t', 'r', 'u', 'e'] else ['f', 'a', 'l', 's', 'e'])
  /-- A numeral, which is read to its end as the number. -/
  | number {x : Float} {cs : List Char} : x.isFinite = true →
      (∀ c ∈ cs, isNumeralChar c = true) → readNumber? cs = some (x, []) → Spells (.number x) cs
  | text {s : String} {cs : List Char} : SpellsString s cs → Spells (.text s) cs
  | emptyArray {gap : List Char} : (∀ c ∈ gap, isSpace c = true) →
      Spells (.array []) ('[' :: gap ++ [']'])
  | array (items : List (Value × Padded)) : items ≠ [] → (∀ i ∈ items, Spells i.1 i.2.text) →
      Spells (.array (items.map Prod.fst)) ('[' :: itemsText items ++ [']'])
  | emptyObject {gap : List Char} : (∀ c ∈ gap, isSpace c = true) →
      Spells (.object []) ('{' :: gap ++ ['}'])
  /-- The members may stand in any order. -/
  | object (parts : List ((String × Value) × Padded × Padded))
      {members : List (String × Value)} : parts ≠ [] → (parts.map Prod.fst).Perm members →
      Entries.Sorted members → (∀ m ∈ parts, SpellsString m.1.1 m.2.1.text) →
      (∀ m ∈ parts, Spells m.1.2 m.2.2.text) →
      Spells (.object members) ('{' :: membersText parts ++ ['}'])

/-! ## The first character -/

theorem isNumeralChar_of_isSpace (h : isSpace c = true) : isNumeralChar c = false := by
  simp only [isSpace, Bool.or_eq_true, beq_iff_eq] at h
  rcases h with ((rfl | rfl) | rfl) | rfl <;> rfl

/-- The text starts with a character that is neither white space nor a closing bracket. -/
def StartsValue (cs : List Char) : Prop :=
  ∃ c tail, cs = c :: tail ∧ isSpace c = false ∧ c ≠ ']'

theorem Spells.startsValue {v : Value} (h : Spells v cs) : StartsValue cs := by
  cases h with
  | null => exact ⟨_, _, rfl, by decide, by decide⟩
  | bool b => cases b <;> exact ⟨_, _, rfl, by decide, by decide⟩
  | number hx hchars hread =>
      rcases cs with _ | ⟨c, tail⟩
      · cases hread
      · have hc : isNumeralChar c = true := hchars c List.mem_cons_self
        refine ⟨c, tail, rfl, ?_, Text.ne_of_class hc rfl⟩
        rw [← Bool.not_eq_true]
        intro hspace
        rw [isNumeralChar_of_isSpace hspace] at hc
        cases hc
  | text hs =>
      obtain ⟨body, rfl, -⟩ := hs
      exact ⟨_, _, rfl, by decide, by decide⟩
  | emptyArray _ => exact ⟨_, _, rfl, by decide, by decide⟩
  | array _ _ _ => exact ⟨_, _, rfl, by decide, by decide⟩
  | emptyObject _ => exact ⟨_, _, rfl, by decide, by decide⟩
  | object _ _ _ _ _ _ => exact ⟨_, _, rfl, by decide, by decide⟩

theorem SpellsString.startsValue {s : String} (h : SpellsString s cs) : StartsValue cs :=
  (Spells.text h).startsValue

/-! ## The values that have texts -/

theorem Spells.wellFormed (h : Spells v cs) : v.WellFormed := by
  induction h with
  | null => exact .null
  | bool b => exact .bool b
  | number _ _ _ => exact .number _
  | text _ => exact .text _
  | emptyArray _ => exact .array [] nofun
  | array items _ _ ih => exact .array _ (List.forall_mem_map.2 ih)
  | emptyObject _ => exact .object [] .nil nofun
  | object parts _ hperm hsorted _ _ ih =>
      refine .object _ hsorted fun m hm => ?_
      obtain ⟨part, hpart, rfl⟩ := List.mem_map.1 (hperm.mem_iff.2 hm)
      exact ih part hpart

theorem Spells.hasFiniteNumbers (h : Spells v cs) : v.HasFiniteNumbers := by
  induction h with
  | null => exact .null
  | bool b => exact .bool b
  | number hx _ _ => exact .number _ hx
  | text _ => exact .text _
  | emptyArray _ => exact .array [] nofun
  | array items _ _ ih => exact .array _ (List.forall_mem_map.2 ih)
  | emptyObject _ => exact .object [] nofun
  | object parts _ hperm _ _ _ ih =>
      refine .object _ fun m hm => ?_
      obtain ⟨part, hpart, rfl⟩ := List.mem_map.1 (hperm.mem_iff.2 hm)
      exact ih part hpart

end Json

end Reckon
