/-
# Reckon.Proofs.Lexeme.Name — names among the lexemes

Three readers know names: hosts bind what `Text.isName` accepts, the heads of statements bind
what `Statement.splitName?` takes, and formulas read words. The first two agree. The third reads
the same words as names, but for the three that are JSON literals; besides these it reads the
names of captures, which nobody can bind. A name in this narrower sense is called *usable*.
-/
import Reckon.Proofs.Lexeme.Append
import Reckon.Proofs.Statement.Heads

namespace Reckon.Lexeme

open Text (isName isBlank isDigit isLetter isSmallLetter isNameChar takeWhile_append_of_stop
  dropWhile_append_of_stop)

/-- A name that is no JSON literal. -/
structure Usable (name : String) : Prop where
  isName : isName name.toList = true
  free : name ∉ reservedWords

/-! ## Characters of names -/

theorem isNameChar_of_isSmallLetter {c : Char} (h : isSmallLetter c = true) :
    isNameChar c = true := by
  rw [isNameChar, isLetter, h]
  rfl

theorem isDigit_of_isSmallLetter {c : Char} (hc : isSmallLetter c = true) : isDigit c = false := by
  simp only [isSmallLetter, isDigit, Text.le_iff_toNat_le, Bool.and_eq_true, decide_eq_true_eq,
    Bool.and_eq_false_iff, decide_eq_false_iff_not, Char.reduceToNat] at hc ⊢
  omega

theorem isBlank_of_isNameChar {c : Char} (hc : isNameChar c = true) : isBlank c = false := by
  cases hblank : isBlank c with
  | false => rfl
  | true =>
      have hsep : separates c = true := by rw [separates, hblank, Bool.or_true]
      rw [isNameChar_of_separates hsep] at hc
      cases hc

/-- All characters of a name may stand in one. -/
theorem isNameChar_of_mem {name : String} (h : isName name.toList = true) :
    ∀ c ∈ name.toList, isNameChar c = true := by
  cases hcs : name.toList with
  | nil =>
      intro c hc
      cases hc
  | cons d cs =>
      rw [hcs, isName, Bool.and_eq_true, List.all_eq_true] at h
      intro c hc
      rcases List.mem_cons.1 hc with rfl | hc
      · exact isNameChar_of_isSmallLetter h.1
      · exact h.2 c hc

/-! ## Reading words -/

theorem scanOne_of_isSmallLetter (operandDue : Bool) {c : Char} (hc : isSmallLetter c = true)
    (cs : List Char) : scanOne operandDue c cs = .ok (scanWord (c :: cs)) := by
  have hne := fun d (hd : isSmallLetter d = false) => beq_eq_false_iff_ne.2 (Text.ne_of_class hc hd)
  rw [scanOne, isOpening, isQuote, hne '[' (by decide), hne '{' (by decide), hne '/' (by decide),
    hne '"' (by decide), hne '\'' (by decide), hne '(' (by decide), hne ')' (by decide),
    hne ',' (by decide), hne '.' (by decide), isDigit_of_isSmallLetter hc, hc]
  rfl

/-- The first characters of a text are a name with which its first word ends. -/
theorem word_of_isName {name : String} (h : isName name.toList = true) {rest : List Char}
    (hrest : ∀ c ∈ rest.head?, isNameChar c = false) :
    String.ofList ((name.toList ++ rest).takeWhile isNameChar) = name ∧
      (name.toList ++ rest).dropWhile isNameChar = rest := by
  have hall := isNameChar_of_mem h
  rw [takeWhile_append_of_stop hrest, dropWhile_append_of_stop hrest,
    List.takeWhile_eq_self_iff.2 hall, List.dropWhile_eq_nil_iff.2 hall, String.ofList_toList]
  exact ⟨rfl, rfl⟩

/-- A text that starts with a name starts with the word of it. -/
theorem scanFrom_of_isName (operandDue : Bool) {name : String} (h : isName name.toList = true)
    (rest : List Char) :
    scanFrom operandDue (name.toList ++ rest)
      = (scanFrom (!(scanWord (name.toList ++ rest)).1.endsOperand)
          (scanWord (name.toList ++ rest)).2).map ((scanWord (name.toList ++ rest)).1 :: ·) := by
  cases hcs : name.toList with
  | nil =>
      rw [hcs] at h
      cases h
  | cons c cs =>
      have hc : isSmallLetter c = true := by
        rw [hcs, isName, Bool.and_eq_true] at h
        exact h.1
      have hblank : isBlank c = false := isBlank_of_isNameChar (isNameChar_of_isSmallLetter hc)
      refine scanFrom_of_scanOne ?_ (scanOne_of_isSmallLetter operandDue hc (cs ++ rest))
      exact List.dropWhile_cons_of_neg (by simp [hblank])

namespace Usable

variable {name : String}

theorem contains_eq_false (h : Usable name) : reservedWords.contains name = false := by
  rw [Bool.eq_false_iff]
  exact fun hmem => h.free (List.contains_iff_mem.1 hmem)

/-- A usable name is read as itself, if what follows does not go on with it. -/
theorem scanFrom_identifier (h : Usable name) (operandDue : Bool) {rest : List Char}
    (hrest : ∀ c ∈ rest.head?, isNameChar c = false ∧ c ≠ '(') :
    scanFrom operandDue (name.toList ++ rest)
      = (scanFrom false rest).map (identifier name :: ·) := by
  obtain ⟨hword, hafter⟩ := word_of_isName h.isName fun c hc => (hrest c hc).1
  have hscan : scanWord (name.toList ++ rest) = (identifier name, rest) := by
    have hfree := h.contains_eq_false
    rw [← hword] at hfree
    rw [scanWord_of_identifier hfree, hword, hafter]
    rintro after heq
    rw [hafter] at heq
    subst heq
    exact (hrest '(' rfl).2 rfl
  rw [scanFrom_of_isName operandDue h.isName, hscan]
  rfl

/-- Before a parenthesis a usable name is read as a call. -/
theorem scanFrom_call (h : Usable name) (operandDue : Bool) (rest : List Char) :
    scanFrom operandDue (name.toList ++ '(' :: rest)
      = (scanFrom true rest).map (call name :: ·) := by
  have hstop : ∀ c ∈ ('(' :: rest).head?, isNameChar c = false := by
    intro c hc
    cases hc
    decide
  obtain ⟨hword, hafter⟩ := word_of_isName h.isName hstop
  have hscan : scanWord (name.toList ++ '(' :: rest) = (call name, rest) := by
    have hfree := h.contains_eq_false
    rw [← hword] at hfree
    rw [scanWord_of_call hfree hafter, hword]
  rw [scanFrom_of_isName operandDue h.isName, hscan]
  rfl

end Usable

/-! ## What is read as a name -/

/-- Only words and captures have names. -/
theorem scanOne_eq_named {operandDue : Bool} {c : Char} {cs after : List Char} {t : Lexeme}
    {name : String} (ht : t = identifier name ∨ t = call name)
    (h : scanOne operandDue c cs = .ok (t, after)) :
    (isSmallLetter c = true ∧ scanWord (c :: cs) = (t, after)) ∨
      (c = '$' ∧ scanCapture cs = .ok (t, after)) := by
  have hbuilt : ∀ {α : Type} {build : α → Lexeme} {r : Except Fault (α × List Char)},
      readAs build r = .ok (t, after) → (∀ a, build a ≠ identifier name ∧ build a ≠ call name) →
      False := by
    intro α build r hr hbuild
    obtain ⟨a, -, rfl⟩ := readAs_eq_ok_iff.1 hr
    exact ht.elim (hbuild a).1 (hbuild a).2
  obtain ⟨reader, hstart, hread⟩ := exists_reader operandDue c
  rw [hread] at h
  cases reader with
  | bracket =>
      obtain ⟨n, -, rfl, -⟩ := scanBracket_eq_ok_iff.1 h
      unfold bracketed at ht
      split at ht <;> rcases ht with ht | ht <;> cases ht
  | pattern | text | number =>
      exact (hbuilt h fun a => ⟨Lexeme.noConfusion, Lexeme.noConfusion⟩).elim
  | openParen | closeParen | comma =>
      cases h
      rcases ht with ht | ht <;> cases ht
  | word => exact .inl ⟨hstart, Except.ok.inj h⟩
  | capture => exact .inr ⟨hstart, h⟩
  | operator =>
      obtain ⟨op, rfl, -⟩ := ofSymbol_of_scanOperator h
      rcases ht with ht | ht <;> cases ht

/-- What a word is read as, unless it is a JSON literal, has its name, and this is usable. -/
theorem usable_of_scanWord {c : Char} {cs after : List Char} {t : Lexeme} {name : String}
    (hc : isSmallLetter c = true) (ht : t = identifier name ∨ t = call name)
    (h : scanWord (c :: cs) = (t, after)) : Usable name := by
  have hword : ∀ {word : String}, word = String.ofList ((c :: cs).takeWhile isNameChar) →
      reservedWords.contains word = false → Usable word := by
    rintro word rfl hfree
    constructor
    · rw [String.toList_ofList, List.takeWhile_cons_of_pos (isNameChar_of_isSmallLetter hc), isName,
        hc, Bool.true_and]
      exact List.all_takeWhile
    · exact fun hmem => Bool.eq_false_iff.1 hfree (List.contains_iff_mem.2 hmem)
  cases hfree : reservedWords.contains (String.ofList ((c :: cs).takeWhile isNameChar)) with
  | true =>
      rw [scanWord_of_reserved hfree] at h
      cases h
      rcases ht with ht | ht <;> cases ht
  | false =>
      by_cases hcall : ∃ after, (c :: cs).dropWhile isNameChar = '(' :: after
      · obtain ⟨after', hafter⟩ := hcall
        rw [scanWord_of_call hfree hafter] at h
        cases h
        rcases ht with ht | ht
        · cases ht
        · cases ht
          exact hword rfl hfree
      · rw [scanWord_of_identifier hfree fun after' h => hcall ⟨after', h⟩] at h
        cases h
        rcases ht with ht | ht
        · cases ht
          exact hword rfl hfree
        · cases ht

/-- The words that captures are read by. -/
def CaptureWord (name : String) : Prop :=
  ∃ cs, name.toList = '$' :: cs ∧ cs ≠ [] ∧ ∀ c ∈ cs, isNameChar c = true

theorem not_captureWord_of_isName {name : String} (h : isName name.toList = true) :
    ¬ CaptureWord name := by
  rintro ⟨cs, hcs, -⟩
  have hdollar : isSmallLetter '$' = false := by decide
  rw [hcs, isName, hdollar] at h
  cases h

/-- The word of a capture is read as itself, if what follows does not go on with it. -/
theorem CaptureWord.scanFrom_identifier {name : String} (h : CaptureWord name) (operandDue : Bool)
    {rest : List Char} (hrest : ∀ c ∈ rest.head?, isNameChar c = false) :
    scanFrom operandDue (name.toList ++ rest)
      = (scanFrom false rest).map (identifier name :: ·) := by
  obtain ⟨cs, hcs, hne, hall⟩ := h
  have htake : (cs ++ rest).takeWhile isNameChar = cs := by
    rw [takeWhile_append_of_stop hrest, List.takeWhile_eq_self_iff.2 hall]
  have hdrop : (cs ++ rest).dropWhile isNameChar = rest := by
    rw [dropWhile_append_of_stop hrest, List.dropWhile_eq_nil_iff.2 hall, List.nil_append]
  have hone : scanOne operandDue '$' (cs ++ rest) = .ok (identifier name, rest) := by
    have hcapture : scanOne operandDue '$' (cs ++ rest) = scanCapture (cs ++ rest) := rfl
    rw [hcapture, scanCapture, htake, hdrop, ← hcs, String.ofList_toList]
    exact if_neg fun hempty => hne (List.isEmpty_iff.1 hempty)
  have hstart : (name.toList ++ rest).dropWhile isBlank = '$' :: (cs ++ rest) := by
    rw [hcs]
    rfl
  rw [scanFrom_of_scanOne hstart hone]
  rfl

theorem captureWord_of_scanCapture {cs after : List Char} {t : Lexeme} {name : String}
    (ht : t = identifier name ∨ t = call name) (h : scanCapture cs = .ok (t, after)) :
    t = identifier name ∧ CaptureWord name := by
  obtain ⟨hne, rfl, -⟩ := scanCapture_eq_ok_iff.1 h
  rcases ht with ht | ht
  · cases ht
    exact ⟨rfl, cs.takeWhile isNameChar, String.toList_ofList, hne,
      fun c hc => List.mem_takeWhile_imp hc⟩
  · cases ht

/-- Of the lexemes of a text, those with a name have a usable one, or are captures. -/
theorem usable_of_mem_scanFrom {operandDue : Bool} {cs : List Char} {ts : List Lexeme}
    {t : Lexeme} {name : String} (h : scanFrom operandDue cs = .ok ts) (hmem : t ∈ ts)
    (ht : t = identifier name ∨ t = call name) :
    Usable name ∨ (t = identifier name ∧ CaptureWord name) := by
  fun_induction scanFrom operandDue cs generalizing ts with
  | case1 =>
      cases h
      cases hmem
  | case2 => cases h
  | case3 operandDue cs c tail hcs u after hu ih =>
      obtain ⟨us, hus, rfl⟩ := Outcome.map_eq_ok_iff.1 h
      rcases List.mem_cons.1 hmem with rfl | hmem
      · rcases scanOne_eq_named ht hu with ⟨hc, hword⟩ | ⟨-, hcapture⟩
        · exact .inl (usable_of_scanWord hc ht hword)
        · exact .inr (captureWord_of_scanCapture ht hcapture)
      · exact ih hus hmem

/-- Exactly the usable names are read back as themselves, and the words of captures. -/
theorem scan_eq_identifier_iff {name : String} :
    scan name = .ok [identifier name] ↔ Usable name ∨ CaptureWord name := by
  constructor
  · intro h
    exact (usable_of_mem_scanFrom h (List.mem_singleton_self _) (.inl rfl)).imp_right And.right
  · rintro (husable | hcapture)
    · have h : scanFrom true (name.toList ++ []) = _ := husable.scanFrom_identifier true nofun
      rwa [List.append_nil, scanFrom_nil] at h
    · have h : scanFrom true (name.toList ++ []) = _ := hcapture.scanFrom_identifier true nofun
      rwa [List.append_nil, scanFrom_nil] at h

/-- Exactly the usable names are read as calls where a parenthesis follows. -/
theorem scan_eq_call_iff {name : String} :
    scan (name ++ "(") = .ok [call name] ↔ Usable name := by
  constructor
  · intro h
    rcases usable_of_mem_scanFrom h (List.mem_singleton_self _) (.inr rfl) with h | ⟨h, -⟩
    · exact h
    · cases h
  · intro husable
    have h := husable.scanFrom_call true []
    rw [scan, String.toList_append]
    rwa [scanFrom_nil] at h

/-- The heads of statements take a whole text as a name exactly if hosts do. -/
theorem splitName?_eq_self_iff {name : String} :
    Statement.splitName? name.toList = some (name, []) ↔ isName name.toList = true := by
  rw [Statement.splitName?_eq_some_iff, List.append_nil]
  constructor
  · exact fun h => h.1
  · exact fun h => ⟨h, rfl, nofun⟩

end Reckon.Lexeme
