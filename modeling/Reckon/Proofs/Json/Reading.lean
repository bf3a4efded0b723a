/-
# Reckon.Proofs.Json.Reading — every text of a value is read as the value

The reader of JSON gives back a value from every text that spells it (`Spells.readsAs`), if it may
go as deep as the value nests. What follows a text makes no difference, unless it goes on like
a number.
-/
import Reckon.Proofs.Json.Spelling

namespace Reckon

/-! ## Members in the order of their names -/

namespace Entries

variable {α : Type}

/-- A name that is not bound yet is added to the entries. -/
theorem perm_insert {name : String} (value : α) {entries : List (String × α)}
    (h : ∀ p ∈ entries, p.1 ≠ name) :
    (insert name value entries).Perm ((name, value) :: entries) := by
  induction entries with
  | nil => exact .refl _
  | cons e rest ih =>
      obtain ⟨k, v⟩ := e
      have hne : name ≠ k := (h (k, v) List.mem_cons_self).symm
      rw [insert]
      split
      · exact .refl _
      · exact ((ih fun p hp => h p (List.mem_cons_of_mem _ hp)).cons _).trans (.swap _ _ _)

/-- Binding distinct names one after the other adds them all. -/
theorem perm_foldl_insert (entries pairs : List (String × α))
    (h : ((entries ++ pairs).map Prod.fst).Nodup) :
    (pairs.foldl (fun entries (name, value) => insert name value entries) entries).Perm
      (entries ++ pairs) := by
  induction pairs generalizing entries with
  | nil => rw [List.append_nil]; exact .refl _
  | cons p pairs ih =>
      obtain ⟨name, value⟩ := p
      have hinsert : (insert name value entries).Perm ((name, value) :: entries) := by
        apply perm_insert
        intro q hq heq
        rw [List.map_append, List.map_cons] at h
        exact List.disjoint_of_nodup_append h (List.mem_map_of_mem hq)
          (heq ▸ List.mem_cons_self)
      have hmiddle :
          (insert name value entries ++ pairs).Perm (entries ++ (name, value) :: pairs) :=
        (hinsert.append_right pairs).trans List.perm_middle.symm
      exact (ih _ ((hmiddle.map Prod.fst).nodup_iff.2 h)).trans hmiddle

theorem sorted_foldl_insert {entries : List (String × α)} (h : Sorted entries)
    (pairs : List (String × α)) :
    Sorted (pairs.foldl (fun entries (name, value) => insert name value entries) entries) := by
  induction pairs generalizing entries with
  | nil => exact h
  | cons p pairs ih => exact ih h.insert

/-- Entries that are listed in some order are bound in the order of their names. -/
theorem ofList_eq_of_perm {pairs members : List (String × α)} (hperm : pairs.Perm members)
    (h : Sorted members) : ofList pairs = members := by
  have hnodup : (members.map Prod.fst).Nodup :=
    List.pairwise_map.2 (List.Pairwise.imp (fun hlt => String.ne_of_lt hlt) h)
  have hbound : (ofList pairs).Perm members :=
    (perm_foldl_insert [] pairs ((hperm.map Prod.fst).nodup_iff.2 hnodup)).trans hperm
  refine List.Perm.eq_of_pairwise ?_ (sorted_foldl_insert .nil pairs) h hbound
  intro a b _ _ hab hba
  exact absurd hba (String.lt_asymm hab)

end Entries
namespace Json

open Number (isNumeralChar)
open Number.Numeral (Ends)
open Text (isDigit takeWhile_append_of_stop dropWhile_append_of_stop)

variable {cs rest : List Char} {c : Char} {v : Value}

/-! ## Strings -/

theorem readUnit?_append {n : Nat} {after : List Char} (h : readUnit? cs = some (n, after))
    (rest : List Char) : readUnit? (cs ++ rest) = some (n, after ++ rest) := by
  unfold readUnit? at h
  split at h
  · rename_i a b c d tail
    simp only [Option.bind_eq_bind, Option.bind_eq_some_iff, Option.some.injEq,
      Prod.mk.injEq] at h
    obtain ⟨i, hi, j, hj, k, hk, l, hl, rfl, rfl⟩ := h
    simp only [List.cons_append, readUnit?, hi, hj, hk, hl, Option.bind_eq_bind, Option.bind_some]
  · cases h

theorem readEscape?_of_spells (h : SpellsEscape c cs) (rest : List Char) :
    readEscape? (cs ++ rest) = some (c, rest) := by
  cases h with
  | letter hmem =>
      simp only [letterEscapes, List.mem_cons, Prod.mk.injEq, List.not_mem_nil, or_false] at hmem
      rcases hmem with ⟨rfl, rfl⟩ | ⟨rfl, rfl⟩ | ⟨rfl, rfl⟩ | ⟨rfl, rfl⟩ | ⟨rfl, rfl⟩ | ⟨rfl, rfl⟩
        | ⟨rfl, rfl⟩ | ⟨rfl, rfl⟩ <;> rfl
  | @unit digits n hunit hn =>
      have hlow : (0xDC00 ≤ n && n ≤ 0xDFFF) = false := by
        rw [Bool.and_eq_false_iff, decide_eq_false_iff_not, decide_eq_false_iff_not]
        omega
      have hhigh : (0xD800 ≤ n && n ≤ 0xDBFF) = false := by
        rw [Bool.and_eq_false_iff, decide_eq_false_iff_not, decide_eq_false_iff_not]
        omega
      show readCodePoint? (digits ++ rest) = _
      rw [readCodePoint?, readUnit?_append hunit]
      simp only [Option.bind_eq_bind, Option.bind_some, hlow, hhigh, Bool.false_eq_true, if_false,
        List.nil_append]
  | @pair digits digits' high low hunit hunit' h1 h2 h3 h4 =>
      have hlow : (0xDC00 ≤ high && high ≤ 0xDFFF) = false := by
        rw [Bool.and_eq_false_iff, decide_eq_false_iff_not, decide_eq_false_iff_not]
        omega
      have hhigh : (0xD800 ≤ high && high ≤ 0xDBFF) = true := by
        simp [h1, h2]
      have hlow' : (0xDC00 ≤ low && low ≤ 0xDFFF) = true := by
        simp [h3, h4]
      have hread := readUnit?_append hunit ('\\' :: 'u' :: (digits' ++ rest))
      show readCodePoint? (digits ++ '\\' :: 'u' :: digits' ++ rest) = _
      rw [List.append_assoc, List.cons_append, List.cons_append, readCodePoint?, hread]
      simp only [Option.bind_eq_bind, Option.bind_some, hlow, hhigh, hlow', Bool.false_eq_true,
        if_false, if_true, List.nil_append, readUnit?_append hunit']

theorem readString?_escape (h : readEscape? cs = some (c, rest)) :
    readString? ('\\' :: cs) = (readString? rest).map fun (s, r) => (c :: s, r) := by
  rw [readString?]
  split
  · rename_i hnone
    rw [h] at hnone
    cases hnone
  · rename_i heq
    rw [h] at heq
    cases heq
    rfl

/-- The text between the quotes of a string is read as this string. -/
theorem readString?_of_spells {s : List Char} (h : SpellsBody s cs) (rest : List Char) :
    readString? (cs ++ '"' :: rest) = some (s, rest) := by
  induction h with
  | nil => rw [List.nil_append, readString?]
  | plain hquote hbackslash hcontrol _ ih =>
      rw [List.cons_append, readString?, if_neg (Nat.not_lt.2 hcontrol), ih]
      · rfl
      · exact hquote
      · exact hbackslash
  | escaped hescape _ ih =>
      rw [List.cons_append, List.cons_append, List.append_assoc,
        readString?_escape (readEscape?_of_spells hescape _), ih]
      rfl

/-! ## Numbers

What follows a number makes no difference to it, if it does not go on like one. -/

theorem readWhole?_append {digits after : List Char} (h : readWhole? cs = some (digits, after))
    (hrest : ∀ c ∈ rest.head?, isDigit c = false) :
    readWhole? (cs ++ rest) = some (digits, after ++ rest) := by
  rw [readWhole?.eq_def] at h
  split at h
  · cases h
    rfl
  · rename_i hzero
    dsimp only at h
    split at h
    · cases h
    rename_i hdigits
    cases h
    rw [readWhole?.eq_2]
    · rw [takeWhile_append_of_stop hrest, dropWhile_append_of_stop hrest, if_neg hdigits]
    · intro tail heq
      rcases cs with _ | ⟨c, cs⟩
      · exact hdigits rfl
      · cases heq
        exact hzero _ rfl

theorem readFraction?_append {digits after : List Char}
    (h : readFraction? cs = some (digits, after)) (hrest : Ends rest) :
    readFraction? (cs ++ rest) = some (digits, after ++ rest) := by
  have hstop : ∀ c ∈ rest.head?, isDigit c = false :=
    fun c hc => Number.Numeral.isDigit_of_isNumeralChar (hrest c hc)
  rw [readFraction?.eq_def] at h
  split at h
  · dsimp only at h
    split at h
    · cases h
    rename_i hdigits
    cases h
    rw [List.cons_append, readFraction?, takeWhile_append_of_stop hstop,
      dropWhile_append_of_stop hstop, if_neg hdigits]
  · rename_i hpoint
    cases h
    rw [readFraction?.eq_2]
    intro tail heq
    rcases cs with _ | ⟨c, cs⟩
    · exact absurd (hrest '.' (by rw [List.nil_append] at heq; rw [heq]; rfl)) (by decide)
    · cases heq
      exact hpoint _ rfl

theorem readPower?_append {power : Int} {after : List Char}
    (h : readPower? cs = some (power, after)) (hrest : Ends rest) :
    readPower? (cs ++ rest) = some (power, after ++ rest) := by
  have hstop : ∀ c ∈ rest.head?, isDigit c = false :=
    fun c hc => Number.Numeral.isDigit_of_isNumeralChar (hrest c hc)
  have htake := takeWhile_append_of_stop hstop
  have hdrop := dropWhile_append_of_stop hstop
  rcases cs with _ | ⟨e, cs⟩
  · cases h
    exact Number.Numeral.readPower?_of_ends hrest
  rw [List.cons_append]
  rw [readPower?.eq_def] at h ⊢
  dsimp only at h ⊢
  split at h
  · rename_i he
    rw [if_pos he]
    rcases cs with _ | ⟨sign, ds⟩
    · cases h
    by_cases hminus : sign = '-'
    · subst hminus
      simpa [htake, hdrop] using h
    by_cases hplus : sign = '+'
    · subst hplus
      simpa [htake, hdrop] using h
    · have htake' := htake (sign :: ds)
      have hdrop' := hdrop (sign :: ds)
      rw [List.cons_append] at htake' hdrop' ⊢
      simpa [hminus, hplus, htake', hdrop'] using h
  · rename_i he
    cases h
    rw [if_neg he]
    rfl

theorem readMagnitude?_append {x : Float} {after : List Char}
    (h : readMagnitude? cs = some (x, after)) (hrest : Ends rest) :
    readMagnitude? (cs ++ rest) = some (x, after ++ rest) := by
  have hstop : ∀ c ∈ rest.head?, isDigit c = false :=
    fun c hc => Number.Numeral.isDigit_of_isNumeralChar (hrest c hc)
  simp only [readMagnitude?, Option.bind_eq_bind, Option.bind_eq_some_iff, Prod.exists] at h
  obtain ⟨whole, cs₁, hwhole, fraction, cs₂, hfraction, power, cs₃, hpower, hx⟩ := h
  simp only [readMagnitude?, readWhole?_append hwhole hstop, readFraction?_append hfraction hrest,
    readPower?_append hpower hrest, Option.bind_eq_bind, Option.bind_some]
  split at hx
  · cases hx
  · rename_i hinf
    cases hx
    rw [if_neg hinf]

theorem readNumber?_append {x : Float} (h : readNumber? cs = some (x, [])) (hrest : Ends rest) :
    readNumber? (cs ++ rest) = some (x, rest) := by
  rw [readNumber?.eq_def] at h
  split at h
  · rename_i tail
    obtain ⟨⟨y, after⟩, hy, heq⟩ := Option.map_eq_some_iff.1 h
    cases heq
    rw [List.cons_append, readNumber?, readMagnitude?_append hy hrest]
    rfl
  · rename_i hsign
    rw [readNumber?.eq_2, readMagnitude?_append h hrest, List.nil_append]
    intro tail heq
    rcases cs with _ | ⟨c, cs⟩
    · cases h
    · cases heq
      exact hsign _ rfl

/-! ## White space -/

theorem skipSpace_append {gap : List Char} (h : ∀ c ∈ gap, isSpace c = true) (cs : List Char) :
    skipSpace (gap ++ cs) = skipSpace cs :=
  List.dropWhile_append_of_pos h

theorem StartsValue.skipSpace_eq (h : StartsValue cs) (rest : List Char) :
    skipSpace (cs ++ rest) = cs ++ rest := by
  obtain ⟨c, tail, rfl, hc, -⟩ := h
  rw [List.cons_append, skipSpace, List.dropWhile_cons_of_neg (by simp [hc])]

namespace Padded

variable (p : Padded)

theorem isSpace_before : ∀ c ∈ p.before, isSpace c = true :=
  fun c hc => p.blank c (List.mem_append_left _ hc)

theorem isSpace_after : ∀ c ∈ p.after, isSpace c = true :=
  fun c hc => p.blank c (List.mem_append_right _ hc)

theorem skipSpace_toList {p : Padded} (h : StartsValue p.text) (rest : List Char) :
    skipSpace (p.toList ++ rest) = p.text ++ (p.after ++ rest) := by
  rw [toList, List.append_assoc, List.append_assoc, skipSpace_append p.isSpace_before,
    h.skipSpace_eq]

theorem ends_after (hrest : Ends rest) : Ends (p.after ++ rest) := by
  intro c hc
  rcases hafter : p.after with _ | ⟨d, after⟩
  · rw [hafter] at hc
    exact hrest c hc
  · rw [hafter] at hc
    cases hc
    exact isNumeralChar_of_isSpace (p.isSpace_after c (hafter ▸ List.mem_cons_self))

end Padded

/-! ## Items and members -/

/-- A reader takes the value off a text that starts with `cs`. -/
def ReadsAs (item : List Char → Option (Value × List Char)) (v : Value) (cs : List Char) : Prop :=
  ∀ rest, Ends rest → item (cs ++ rest) = some (v, rest)

variable {item : List Char → Option (Value × List Char)}

theorem itemsText_cons_cons (i j : Value × Padded) (others : List (Value × Padded)) :
    itemsText (i :: j :: others) = i.2.toList ++ ',' :: itemsText (j :: others) := by
  simp [itemsText, List.intercalate_cons_cons]

theorem readItems?_spells {items : List (Value × Padded)} (hne : items ≠ [])
    (hstarts : ∀ i ∈ items, StartsValue i.2.text)
    (hitem : ∀ i ∈ items, ReadsAs item i.1 i.2.text) {n : Nat} (hn : items.length ≤ n)
    (rest : List Char) :
    readItems? item n (itemsText items ++ ']' :: rest) = some (items.map Prod.fst, rest) := by
  induction items generalizing n with
  | nil => exact absurd rfl hne
  | cons i others ih =>
      obtain ⟨k, rfl⟩ := Nat.exists_eq_add_of_le' (Nat.le_of_add_left_le hn)
      have hskip := Padded.skipSpace_toList (hstarts i List.mem_cons_self)
      have hread := hitem i List.mem_cons_self
      cases others with
      | nil =>
          have hends : Ends (i.2.after ++ ']' :: rest) := i.2.ends_after (by rintro c ⟨⟩; rfl)
          have hclose : skipSpace (i.2.after ++ ']' :: rest) = ']' :: rest :=
            skipSpace_append i.2.isSpace_after _
          have hone : itemsText [i] = i.2.toList := List.intercalate_singleton
          rw [hone, readItems?, hskip, hread _ hends]
          simp only [Option.bind_eq_bind, Option.bind_some, hclose]
          rfl
      | cons j others =>
          have hothers := ih (List.cons_ne_nil j others)
            (fun u hu => hstarts u (List.mem_cons_of_mem _ hu))
            (fun u hu => hitem u (List.mem_cons_of_mem _ hu)) (Nat.le_of_succ_le_succ hn)
          have hends : Ends (i.2.after ++ ',' :: (itemsText (j :: others) ++ ']' :: rest)) :=
            i.2.ends_after (by rintro c ⟨⟩; rfl)
          have hcomma : skipSpace (i.2.after ++ ',' :: (itemsText (j :: others) ++ ']' :: rest))
              = ',' :: (itemsText (j :: others) ++ ']' :: rest) :=
            skipSpace_append i.2.isSpace_after _
          rw [itemsText_cons_cons, List.append_assoc, List.cons_append, readItems?, hskip,
            hread _ hends]
          simp only [Option.bind_eq_bind, Option.bind_some, hcomma, hothers]
          rfl

theorem membersText_cons_cons (m n : (String × Value) × Padded × Padded)
    (others : List ((String × Value) × Padded × Padded)) :
    membersText (m :: n :: others)
      = m.2.1.toList ++ ':' :: (m.2.2.toList ++ ',' :: membersText (n :: others)) := by
  simp [membersText, List.intercalate_cons_cons]

theorem readMember?_spells {m : (String × Value) × Padded × Padded}
    (hname : SpellsString m.1.1 m.2.1.text) (hstarts : StartsValue m.2.2.text)
    (hitem : ReadsAs item m.1.2 m.2.2.text) (hrest : Ends rest) :
    readMember? item (m.2.1.toList ++ ':' :: (m.2.2.toList ++ rest))
      = some (m.1, m.2.2.after ++ rest) := by
  obtain ⟨body, htext, hbody⟩ := id hname
  have hcolon : skipSpace (m.2.1.after ++ ':' :: (m.2.2.toList ++ rest))
      = ':' :: (m.2.2.toList ++ rest) := skipSpace_append m.2.1.isSpace_after _
  rw [readMember?, Padded.skipSpace_toList hname.startsValue, htext, List.append_assoc,
    List.cons_append, List.singleton_append]
  simp only [Option.bind_eq_bind, readString?_of_spells hbody, Option.bind_some, hcolon,
    Padded.skipSpace_toList hstarts, hitem _ (m.2.2.ends_after hrest), String.ofList_toList]

theorem readMembers?_spells {parts : List ((String × Value) × Padded × Padded)} (hne : parts ≠ [])
    (hnames : ∀ m ∈ parts, SpellsString m.1.1 m.2.1.text)
    (hstarts : ∀ m ∈ parts, StartsValue m.2.2.text)
    (hitem : ∀ m ∈ parts, ReadsAs item m.1.2 m.2.2.text) {n : Nat} (hn : parts.length ≤ n)
    (rest : List Char) :
    readMembers? item n (membersText parts ++ '}' :: rest) = some (parts.map Prod.fst, rest) := by
  induction parts generalizing n with
  | nil => exact absurd rfl hne
  | cons m others ih =>
      obtain ⟨k, rfl⟩ := Nat.exists_eq_add_of_le' (Nat.le_of_add_left_le hn)
      have hread : ∀ {rest}, Ends rest → readMember? item
          (m.2.1.toList ++ ':' :: (m.2.2.toList ++ rest)) = some (m.1, m.2.2.after ++ rest) :=
        readMember?_spells (hnames m List.mem_cons_self) (hstarts m List.mem_cons_self)
          (hitem m List.mem_cons_self)
      cases others with
      | nil =>
          have hclose : skipSpace (m.2.2.after ++ '}' :: rest) = '}' :: rest :=
            skipSpace_append m.2.2.isSpace_after _
          have hone : membersText [m] = m.2.1.toList ++ ':' :: m.2.2.toList :=
            List.intercalate_singleton
          rw [hone, List.append_assoc, List.cons_append, readMembers?, hread (by rintro c ⟨⟩; rfl)]
          simp only [Option.bind_eq_bind, Option.bind_some, hclose]
          rfl
      | cons n others =>
          have hothers := ih (List.cons_ne_nil n others)
            (fun u hu => hnames u (List.mem_cons_of_mem _ hu))
            (fun u hu => hstarts u (List.mem_cons_of_mem _ hu))
            (fun u hu => hitem u (List.mem_cons_of_mem _ hu)) (Nat.le_of_succ_le_succ hn)
          have hcomma : skipSpace (m.2.2.after ++ ',' :: (membersText (n :: others) ++ '}' :: rest))
              = ',' :: (membersText (n :: others) ++ '}' :: rest) :=
            skipSpace_append m.2.2.isSpace_after _
          rw [membersText_cons_cons, List.append_assoc, List.cons_append, List.append_assoc,
            List.cons_append, readMembers?, hread (by rintro c ⟨⟩; rfl)]
          simp only [Option.bind_eq_bind, Option.bind_some, hcomma, hothers]
          rfl

/-- Between so many texts there are at least so many commas but for one. -/
theorem length_le_intercalate (css : List (List Char)) :
    css.length ≤ ([','].intercalate css).length + 1 := by
  induction css with
  | nil => exact Nat.zero_le _
  | cons cs css ih =>
      cases css with
      | nil => exact Nat.le_add_left _ _
      | cons ds css =>
          rw [List.intercalate_cons_cons]
          simp only [List.length_append, List.length_cons, List.length_nil] at ih ⊢
          omega

/-! ## Containers

The white space after the opening bracket is skipped before the items are counted, so the first
item is read without it. -/

/-- The text without the white space before it. -/
def Padded.flush (p : Padded) : Padded where
  before := []
  text := p.text
  after := p.after
  blank := p.isSpace_after

theorem exists_intercalate_eq_append (css : List (List Char)) :
    ∃ tail, ∀ cs, [','].intercalate (cs :: css) = cs ++ tail := by
  cases css with
  | nil => exact ⟨[], fun cs => by rw [List.intercalate_singleton, List.append_nil]⟩
  | cons ds css => exact ⟨_, fun cs => by rw [List.intercalate_cons_cons, List.append_assoc]⟩

theorem readContainer?_items {items : List (Value × Padded)} (hne : items ≠ [])
    (hstarts : ∀ i ∈ items, StartsValue i.2.text)
    (hitem : ∀ i ∈ items, ReadsAs item i.1 i.2.text) (rest : List Char) :
    readContainer? item '[' (itemsText items ++ ']' :: rest)
      = some (.array (items.map Prod.fst), rest) := by
  rcases items with _ | ⟨i, others⟩
  · exact absurd rfl hne
  obtain ⟨tail, htail⟩ := exists_intercalate_eq_append (others.map fun j => j.2.toList)
  have hstart : StartsValue i.2.text := hstarts i List.mem_cons_self
  have hskip : skipSpace (itemsText (i :: others) ++ ']' :: rest)
      = itemsText ((i.1, i.2.flush) :: others) ++ ']' :: rest := by
    rw [itemsText, itemsText, List.map_cons, List.map_cons, htail, htail, List.append_assoc,
      Padded.skipSpace_toList hstart, List.append_assoc]
    exact (List.append_assoc _ _ _).symm
  have hlength := length_le_intercalate (((i.1, i.2.flush) :: others).map fun j => j.2.toList)
  have hread : readItems? item (itemsText ((i.1, i.2.flush) :: others) ++ ']' :: rest).length
      (itemsText ((i.1, i.2.flush) :: others) ++ ']' :: rest)
        = some ((i :: others).map Prod.fst, rest) := by
    refine readItems?_spells (List.cons_ne_nil _ _) ?_ ?_ ?_ rest
    · exact List.forall_mem_cons.2 ⟨hstart, fun j hj => hstarts j (List.mem_cons_of_mem _ hj)⟩
    · exact List.forall_mem_cons.2
        ⟨hitem i List.mem_cons_self, fun j hj => hitem j (List.mem_cons_of_mem _ hj)⟩
    · simp only [itemsText, List.length_append, List.length_map, List.length_cons] at hlength ⊢
      omega
  obtain ⟨c, cs, hcs, -, hc⟩ := hstart
  obtain ⟨ds, hds⟩ : ∃ ds, itemsText ((i.1, i.2.flush) :: others) ++ ']' :: rest = c :: ds := by
    rw [itemsText, List.map_cons, htail]
    exact ⟨_, by rw [Padded.toList, Padded.flush, hcs]; rfl⟩
  rw [readContainer?, if_pos (by decide), hskip]
  rw [hds] at hread ⊢
  split
  · rename_i heq
    exact absurd (List.cons.inj heq).1 hc
  · rw [hread]
    rfl

theorem readContainer?_members {parts : List ((String × Value) × Padded × Padded)}
    (hne : parts ≠ []) (hnames : ∀ m ∈ parts, SpellsString m.1.1 m.2.1.text)
    (hstarts : ∀ m ∈ parts, StartsValue m.2.2.text)
    (hitem : ∀ m ∈ parts, ReadsAs item m.1.2 m.2.2.text) (rest : List Char) :
    readContainer? item '{' (membersText parts ++ '}' :: rest)
      = some (.object (Entries.ofList (parts.map Prod.fst)), rest) := by
  rcases parts with _ | ⟨m, others⟩
  · exact absurd rfl hne
  obtain ⟨tail, htail⟩ := exists_intercalate_eq_append
    (others.map fun m => m.2.1.toList ++ ':' :: m.2.2.toList)
  have hname : SpellsString m.1.1 m.2.1.text := hnames m List.mem_cons_self
  have hskip : skipSpace (membersText (m :: others) ++ '}' :: rest)
      = membersText ((m.1, m.2.1.flush, m.2.2) :: others) ++ '}' :: rest := by
    rw [membersText, membersText, List.map_cons, List.map_cons, htail, htail, List.append_assoc,
      List.append_assoc, Padded.skipSpace_toList hname.startsValue]
    simp [Padded.toList, Padded.flush]
  have hlength := length_le_intercalate (((m.1, m.2.1.flush, m.2.2) :: others).map
    fun m => m.2.1.toList ++ ':' :: m.2.2.toList)
  have hread : readMembers? item
      (membersText ((m.1, m.2.1.flush, m.2.2) :: others) ++ '}' :: rest).length
      (membersText ((m.1, m.2.1.flush, m.2.2) :: others) ++ '}' :: rest)
        = some ((m :: others).map Prod.fst, rest) := by
    refine readMembers?_spells (List.cons_ne_nil _ _) ?_ ?_ ?_ ?_ rest
    · exact List.forall_mem_cons.2 ⟨hname, fun j hj => hnames j (List.mem_cons_of_mem _ hj)⟩
    · exact List.forall_mem_cons.2
        ⟨hstarts m List.mem_cons_self, fun j hj => hstarts j (List.mem_cons_of_mem _ hj)⟩
    · exact List.forall_mem_cons.2
        ⟨hitem m List.mem_cons_self, fun j hj => hitem j (List.mem_cons_of_mem _ hj)⟩
    · simp only [membersText, List.length_append, List.length_map, List.length_cons] at hlength ⊢
      omega
  obtain ⟨body, htext, -⟩ := hname
  obtain ⟨ds, hds⟩ : ∃ ds, membersText ((m.1, m.2.1.flush, m.2.2) :: others) ++ '}' :: rest
      = '"' :: ds := by
    rw [membersText, List.map_cons, htail]
    exact ⟨_, by rw [Padded.toList, Padded.flush, htext]; rfl⟩
  rw [readContainer?, if_neg (by decide), hskip]
  rw [hds] at hread ⊢
  show (readMembers? item ('"' :: ds).length ('"' :: ds)).map _ = _
  rw [hread]
  rfl

/-! ## Values -/

/-- What is no number is read as it stands, and a number as the numeral says. -/
theorem readsAs_readScalar? (h : Spells v cs) (hscalar : v.isContainer = false) :
    ReadsAs readScalar? v cs := by
  intro rest hrest
  cases h with
  | null => rfl
  | bool b => cases b <;> rfl
  | number _ hchars hread =>
      have hne : ∀ {c tail}, cs ++ rest = c :: tail → isNumeralChar c = true := by
        intro c tail heq
        rcases cs with _ | ⟨d, cs⟩
        · cases hread
        · cases heq
          exact hchars c List.mem_cons_self
      unfold readScalar?
      split
      · exact absurd (hne ‹_›) (by decide)
      · exact absurd (hne ‹_›) (by decide)
      · exact absurd (hne ‹_›) (by decide)
      · exact absurd (hne ‹_›) (by decide)
      · rw [readNumber?_append hread hrest]
        rfl
  | text hs =>
      obtain ⟨body, rfl, hbody⟩ := hs
      rw [List.append_assoc, List.cons_append, List.singleton_append, readScalar?,
        readString?_of_spells hbody]
      simp only [Option.map_some, String.ofList_toList]
  | emptyArray _ => cases hscalar
  | array _ _ _ => cases hscalar
  | emptyObject _ => cases hscalar
  | object _ _ _ _ _ _ => cases hscalar

theorem readsAs_scalar (h : Spells v cs) (hscalar : v.isContainer = false) (depth : Nat) :
    ReadsAs (readValue? depth) v cs := by
  intro rest hrest
  have hread := readsAs_readScalar? h hscalar rest hrest
  cases depth with
  | zero => exact hread
  | succ depth =>
      unfold readValue?
      split
      · rename_i heq
        rw [heq] at hread
        cases hread
      · rename_i heq
        rw [heq] at hread
        cases hread
      · exact hread

/-- A value is read from every text that spells it, if the reader may go as deep as it nests. -/
theorem Spells.readsAs {depth : Nat} (h : Spells v cs) (hdepth : v.depth ≤ depth) :
    ReadsAs (readValue? depth) v cs := by
  induction h generalizing depth with
  | null => exact readsAs_scalar .null rfl depth
  | bool b => exact readsAs_scalar (.bool b) rfl depth
  | number hx hchars hread => exact readsAs_scalar (.number hx hchars hread) rfl depth
  | text hs => exact readsAs_scalar (.text hs) rfl depth
  | @emptyArray gap hgap =>
      intro rest _
      obtain ⟨depth, rfl⟩ := Nat.exists_eq_add_of_le' (Nat.le_of_add_left_le hdepth)
      have hclose : skipSpace (gap ++ ']' :: rest) = ']' :: rest := skipSpace_append hgap _
      rw [List.append_assoc, List.cons_append, List.singleton_append, readValue?, readContainer?,
        if_pos (by decide), hclose]
      rfl
  | array items hne hitems ih =>
      intro rest _
      rw [Value.depth] at hdepth
      obtain ⟨depth, rfl⟩ := Nat.exists_eq_add_of_le' (Nat.le_of_add_left_le hdepth)
      rw [List.append_assoc, List.cons_append, List.singleton_append, readValue?]
      refine readContainer?_items hne (fun i hi => (hitems i hi).startsValue)
        (fun i hi => ih i hi ?_) rest
      exact (Value.depth_le_itemsDepth (List.mem_map_of_mem hi)).trans
        (Nat.le_of_succ_le_succ hdepth)
  | @emptyObject gap hgap =>
      intro rest _
      obtain ⟨depth, rfl⟩ := Nat.exists_eq_add_of_le' (Nat.le_of_add_left_le hdepth)
      have hclose : skipSpace (gap ++ '}' :: rest) = '}' :: rest := skipSpace_append hgap _
      rw [List.append_assoc, List.cons_append, List.singleton_append, readValue?, readContainer?,
        if_neg (by decide), hclose]
      rfl
  | object parts hne hperm hsorted hnames hvalues ih =>
      intro rest _
      rw [Value.depth] at hdepth
      obtain ⟨depth, rfl⟩ := Nat.exists_eq_add_of_le' (Nat.le_of_add_left_le hdepth)
      rw [List.append_assoc, List.cons_append, List.singleton_append, readValue?,
        ← Entries.ofList_eq_of_perm hperm hsorted]
      refine readContainer?_members hne hnames (fun m hm => (hvalues m hm).startsValue)
        (fun m hm => ih m hm ?_) rest
      exact (Value.depth_le_membersDepth (hperm.mem_iff.1 (List.mem_map_of_mem hm))).trans
        (Nat.le_of_succ_le_succ hdepth)

/-- A text is read as the value that it spells, if this nests no deeper than the reader goes. -/
theorem Spells.read?_eq (h : Spells v cs) (hdepth : v.depth ≤ maxDepth) : read? cs = some v := by
  have hread : readValue? maxDepth (cs ++ []) = some (v, []) :=
    h.readsAs hdepth [] fun c hc => nomatch hc
  have hskip := h.startsValue.skipSpace_eq []
  rw [List.append_nil] at hread hskip
  rw [read?, hskip, hread]
  rfl

end Json

end Reckon
