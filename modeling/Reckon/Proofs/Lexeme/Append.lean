/-
# Reckon.Proofs.Lexeme.Append — reading a text that goes on

What follows a text makes no difference to the lexemes in it, if it starts with a comma, a
closing parenthesis or a blank: no lexeme reaches across one of these, unless it is inside a
literal or a selector, which has an end of its own. So the lexemes of such a text and of what
follows are those of the two, one after the other (`scanFrom_append`); only whether an operand
is due where the second part starts has to be handed on.
-/
import Reckon.Proofs.Lexeme.Reader
import Reckon.Proofs.Outcome
import Reckon.Proofs.Text.Stretch

namespace Reckon.Lexeme

open Text (isBlank isDigit isLetter isSmallLetter isNameChar takeWhile_append_of_stop
  dropWhile_append_of_stop)

/-! ## Separators -/

/-- A comma, a closing parenthesis or a blank. -/
def separates (c : Char) : Bool :=
  c == ',' || c == ')' || isBlank c

/-- A text that is empty or starts with a separator. -/
def Separated (cs : List Char) : Prop :=
  ∀ c ∈ cs.head?, separates c = true

theorem separated_cons {c : Char} (h : separates c = true) (cs : List Char) :
    Separated (c :: cs) := by
  intro d hd
  cases hd
  exact h

/-- No separator is part of a name. -/
theorem isNameChar_of_separates {c : Char} (h : separates c = true) : isNameChar c = false := by
  have hrange : c.toNat < 0x30 ∨ 0x7A < c.toNat := by
    simp only [separates, Bool.or_eq_true, beq_iff_eq] at h
    rcases h with (rfl | rfl) | hblank
    · decide
    · decide
    · simp only [isBlank, Bool.or_eq_true, Bool.and_eq_true, beq_iff_eq, decide_eq_true_eq]
        at hblank
      omega
  have hunderscore : c ≠ '_' := by
    rintro rfl
    revert hrange
    decide
  simp only [isNameChar, isLetter, isSmallLetter, isDigit, Text.le_iff_toNat_le,
    Bool.or_eq_false_iff, Bool.and_eq_false_iff, decide_eq_false_iff_not, beq_eq_false_iff_ne]
  refine ⟨⟨⟨?_, ?_⟩, ?_⟩, hunderscore⟩ <;> simp only [Char.reduceToNat] <;> omega

namespace Separated

variable {rest : List Char}

theorem head_ne {c d : Char} (h : Separated (c :: rest)) (hd : separates d = false) : c ≠ d :=
  Text.ne_of_class (h c rfl) hd

theorem stop_isNameChar (h : Separated rest) : ∀ c ∈ rest.head?, isNameChar c = false :=
  fun c hc => isNameChar_of_separates (h c hc)

theorem stop_isLetter (h : Separated rest) : ∀ c ∈ rest.head?, isLetter c = false := by
  intro c hc
  have hname := h.stop_isNameChar c hc
  rw [isNameChar, Bool.or_eq_false_iff, Bool.or_eq_false_iff] at hname
  exact hname.1.1

theorem stop_isDigit (h : Separated rest) : ∀ c ∈ rest.head?, isDigit c = false := by
  intro c hc
  have hname := h.stop_isNameChar c hc
  rw [isNameChar, Bool.or_eq_false_iff, Bool.or_eq_false_iff] at hname
  exact hname.1.2

end Separated

variable {rest : List Char}

/-! ## Brackets and quotes -/

section Marks

variable {depth : Nat} {c : Char}

theorem isQuote_iff : isQuote c = true ↔ c = '"' ∨ c = '\'' := by
  rw [isQuote, Bool.or_eq_true, beq_iff_eq, beq_iff_eq]

theorem isOpening_of_isClosing (h : isClosing c = true) : isOpening c = false := by
  rw [isClosing, Bool.or_eq_true, beq_iff_eq, beq_iff_eq] at h
  rcases h with rfl | rfl <;> rfl

theorem isClosing_of_isOpening (h : isOpening c = true) : isClosing c = false := by
  rw [isOpening, Bool.or_eq_true, beq_iff_eq, beq_iff_eq] at h
  rcases h with rfl | rfl <;> rfl

theorem isQuote_of_isOpening (h : isOpening c = true) : isQuote c = false := by
  rw [isOpening, Bool.or_eq_true, beq_iff_eq, beq_iff_eq] at h
  rcases h with rfl | rfl <;> rfl

theorem isBlank_of_isOpening (h : isOpening c = true) : isBlank c = false := by
  rw [isOpening, Bool.or_eq_true, beq_iff_eq, beq_iff_eq] at h
  rcases h with rfl | rfl <;> rfl

theorem closingOffset?_opening (h : isOpening c = true) (cs : List Char) :
    closingOffset? depth none (c :: cs) = (closingOffset? (depth + 1) none cs).map (· + 1) := by
  simp only [closingOffset?, h, if_true]

theorem closingOffset?_closing (h : isClosing c = true) (cs : List Char) :
    closingOffset? (depth + 2) none (c :: cs)
      = (closingOffset? (depth + 1) none cs).map (· + 1) := by
  simp only [closingOffset?, isOpening_of_isClosing h, h, if_true, Bool.false_eq_true, if_false]

theorem closingOffset?_last (h : isClosing c = true) (cs : List Char) :
    closingOffset? 1 none (c :: cs) = some 0 := by
  simp only [closingOffset?, isOpening_of_isClosing h, h, if_true, Bool.false_eq_true, if_false]

theorem closingOffset?_quote (h : isQuote c = true) (cs : List Char) :
    closingOffset? depth none (c :: cs) = (closingOffset? depth (some c) cs).map (· + 1) := by
  have hbracket : isOpening c = false ∧ isClosing c = false := by
    rcases isQuote_iff.1 h with rfl | rfl <;> exact ⟨rfl, rfl⟩
  simp only [closingOffset?, hbracket.1, hbracket.2, h, if_true, Bool.false_eq_true, if_false]

/-- A character that the search takes notice of outside quotes. -/
def isMark (c : Char) : Bool :=
  isOpening c || isClosing c || isQuote c

theorem closingOffset?_unmarked (h : isMark c = false) (cs : List Char) :
    closingOffset? depth none (c :: cs) = (closingOffset? depth none cs).map (· + 1) := by
  rw [isMark, Bool.or_eq_false_iff, Bool.or_eq_false_iff] at h
  simp only [closingOffset?, h.1.1, h.1.2, h.2, Bool.false_eq_true, if_false]

theorem closingOffset?_plain (hopen : ¬ isOpening c = true) (hclose : ¬ isClosing c = true)
    (hquote : ¬ isQuote c = true) (cs : List Char) :
    closingOffset? depth none (c :: cs) = (closingOffset? depth none cs).map (· + 1) := by
  refine closingOffset?_unmarked ?_ cs
  rw [isMark, Bool.eq_false_iff.2 hopen, Bool.eq_false_iff.2 hclose, Bool.eq_false_iff.2 hquote]
  rfl

end Marks

/-! ## Literals and brackets -/

theorem splitAtStop?_append {stop : Char} {cs body after : List Char}
    (h : splitAtStop? stop cs = some (body, after)) (rest : List Char) :
    splitAtStop? stop (cs ++ rest) = some (body, after ++ rest) := by
  fun_induction splitAtStop? stop cs generalizing body after with
  | case1 => cases h
  | case2 => cases h
  | case3 c cs ih =>
      obtain ⟨⟨inner, after'⟩, hinner, heq⟩ := Option.map_eq_some_iff.1 h
      cases heq
      rw [List.cons_append, List.cons_append, splitAtStop?, ih hinner]
      rfl
  | case4 cs hne =>
      cases h
      rw [List.cons_append, splitAtStop?, if_pos rfl]
      exact hne
  | case5 c cs hne hstop ih =>
      obtain ⟨⟨inner, after'⟩, hinner, heq⟩ := Option.map_eq_some_iff.1 h
      cases heq
      rw [List.cons_append, splitAtStop?, if_neg hstop, ih hinner]
      · rfl
      · exact hne

theorem scanText_append {quote : Char} {cs after : List Char} {s : String}
    (h : scanText quote cs = .ok (s, after)) (rest : List Char) :
    scanText quote (cs ++ rest) = .ok (s, after ++ rest) := by
  rw [scanText] at h ⊢
  cases hsplit : splitAtStop? quote cs with
  | none =>
      rw [hsplit] at h
      cases h
  | some parts =>
      obtain ⟨raw, after'⟩ := parts
      rw [hsplit] at h
      rw [splitAtStop?_append hsplit]
      dsimp only at h ⊢
      cases hraw : unescape? raw with
      | none =>
          rw [hraw] at h
          cases h
      | some s' =>
          rw [hraw] at h
          cases h
          rfl

theorem scanPattern_append {cs after : List Char} {s : String}
    (h : scanPattern cs = .ok (s, after)) (hrest : Separated rest) :
    scanPattern (cs ++ rest) = .ok (s, after ++ rest) := by
  rw [scanPattern] at h ⊢
  rcases hsplit : splitAtStop? '/' cs with _ | ⟨_ | ⟨c, body⟩, after'⟩
  · rw [hsplit] at h
    cases h
  · rw [hsplit] at h
    cases h
  · rw [hsplit] at h
    rw [splitAtStop?_append hsplit]
    dsimp only at h ⊢
    rw [takeWhile_append_of_stop hrest.stop_isLetter, dropWhile_append_of_stop hrest.stop_isLetter]
    cases h
    rfl

/-- The bracket that closes another one is found before the text goes on. -/
theorem closingOffset?_append {depth : Nat} {quote : Option Char} {cs : List Char} {n : Nat}
    (h : closingOffset? depth quote cs = some n) (rest : List Char) :
    closingOffset? depth quote (cs ++ rest) = some n ∧ n < cs.length := by
  fun_induction closingOffset? depth quote cs generalizing n with
  | case1 => cases h
  | case2 depth c cs hopen ih =>
      obtain ⟨m, hm, rfl⟩ := Option.map_eq_some_iff.1 h
      obtain ⟨hoffset, hlt⟩ := ih hm
      rw [List.cons_append, closingOffset?_opening hopen, hoffset]
      exact ⟨rfl, Nat.succ_lt_succ hlt⟩
  | case3 => cases h
  | case4 c cs hopen hclose =>
      cases h
      exact ⟨closingOffset?_last hclose _, Nat.succ_pos _⟩
  | case5 c cs hopen hclose outer ih =>
      obtain ⟨m, hm, rfl⟩ := Option.map_eq_some_iff.1 h
      obtain ⟨hoffset, hlt⟩ := ih hm
      rw [List.cons_append, closingOffset?_closing hclose, hoffset]
      exact ⟨rfl, Nat.succ_lt_succ hlt⟩
  | case6 depth c cs hopen hclose hquote ih =>
      obtain ⟨m, hm, rfl⟩ := Option.map_eq_some_iff.1 h
      obtain ⟨hoffset, hlt⟩ := ih hm
      rw [List.cons_append, closingOffset?_quote hquote, hoffset]
      exact ⟨rfl, Nat.succ_lt_succ hlt⟩
  | case7 depth c cs hopen hclose hquote ih =>
      obtain ⟨m, hm, rfl⟩ := Option.map_eq_some_iff.1 h
      obtain ⟨hoffset, hlt⟩ := ih hm
      rw [List.cons_append, closingOffset?_plain hopen hclose hquote, hoffset]
      exact ⟨rfl, Nat.succ_lt_succ hlt⟩
  | case8 => cases h
  | case9 depth quote d cs ih =>
      obtain ⟨m, hm, rfl⟩ := Option.map_eq_some_iff.1 h
      obtain ⟨hoffset, hlt⟩ := ih hm
      rw [List.cons_append, List.cons_append, closingOffset?, hoffset]
      exact ⟨rfl, Nat.succ_lt_succ (Nat.succ_lt_succ hlt)⟩
  | case10 depth quote c cs hne ih =>
      obtain ⟨m, hm, rfl⟩ := Option.map_eq_some_iff.1 h
      obtain ⟨hoffset, hlt⟩ := ih hm
      rw [List.cons_append, closingOffset?, hoffset]
      · exact ⟨rfl, Nat.succ_lt_succ hlt⟩
      · exact hne

theorem scanBracket_append {operandDue : Bool} {c : Char} {cs after : List Char} {t : Lexeme}
    (h : scanBracket operandDue c cs = .ok (t, after)) (rest : List Char) :
    scanBracket operandDue c (cs ++ rest) = .ok (t, after ++ rest) := by
  obtain ⟨n, hend, rfl, rfl⟩ := scanBracket_eq_ok_iff.1 h
  obtain ⟨hend', hlt⟩ := closingOffset?_append hend rest
  have hle : n ≤ cs.length := Nat.le_of_lt_succ hlt
  refine scanBracket_eq_ok_iff.2 ⟨n, hend', ?_, ?_⟩
  · exact bracketed_congr (List.take_append_of_le_length hle).symm
  · exact (List.drop_append_of_le_length hle).symm

/-! ## Numbers -/

theorem splitFraction_append (hrest : Separated rest) (cs : List Char) :
    splitFraction (cs ++ rest) = ((splitFraction cs).1, (splitFraction cs).2 ++ rest) := by
  have hnone : ∀ ds, (∀ es, ds = '.' :: es → False) → splitFraction ds = ([], ds) :=
    fun ds h => splitFraction.eq_2 ds h
  rcases cs with _ | ⟨c, cs⟩
  · rw [List.nil_append, hnone [] nofun, hnone]
    · rfl
    · rintro es rfl
      exact hrest.head_ne (by decide) rfl
  · by_cases hc : c = '.'
    · subst hc
      rw [List.cons_append, splitFraction, splitFraction,
        takeWhile_append_of_stop hrest.stop_isDigit, dropWhile_append_of_stop hrest.stop_isDigit]
    · rw [List.cons_append, hnone, hnone]
      · rfl
      · rintro es ⟨⟩
        exact hc rfl
      · rintro es ⟨⟩
        exact hc rfl

/-- An exponent ends where the text does: neither a sign nor a digit comes after it. -/
theorem splitExponent_append (hrest : Separated rest) (cs : List Char) :
    splitExponent (cs ++ rest) = ((splitExponent cs).1, (splitExponent cs).2 ++ rest) := by
  rcases cs with _ | ⟨e, _ | ⟨s, ds⟩⟩
  · rcases rest with _ | ⟨c, rest⟩
    · rfl
    · have hc : (c == 'e' || c == 'E') = false := by
        simp [hrest.head_ne (d := 'e') (by decide), hrest.head_ne (d := 'E') (by decide)]
      rw [List.nil_append, splitExponent.eq_def]
      dsimp only
      rw [hc]
      rfl
  · rcases rest with _ | ⟨c, rest⟩
    · rw [List.append_nil, List.append_nil]
    · have hsign : (c == '+' || c == '-') = false := by
        simp [hrest.head_ne (d := '+') (by decide), hrest.head_ne (d := '-') (by decide)]
      have hdigit : isDigit c = false := hrest.stop_isDigit c rfl
      rw [List.cons_append, List.nil_append, splitExponent.eq_def, splitExponent.eq_def [e]]
      dsimp only
      rw [hsign, hdigit]
      split
      · rfl
      · rfl
  · rw [List.cons_append, List.cons_append, splitExponent.eq_def,
      splitExponent.eq_def (e :: s :: ds)]
    dsimp only
    have htake := takeWhile_append_of_stop hrest.stop_isDigit
    have hdrop := dropWhile_append_of_stop hrest.stop_isDigit
    rw [← List.cons_append, htake, htake, hdrop, hdrop]
    repeat' split
    all_goals rfl

theorem splitNumeral_append (hrest : Separated rest) (cs : List Char) :
    splitNumeral (cs ++ rest) = ((splitNumeral cs).1, (splitNumeral cs).2 ++ rest) := by
  simp only [splitNumeral]
  rw [takeWhile_append_of_stop hrest.stop_isDigit, dropWhile_append_of_stop hrest.stop_isDigit,
    splitFraction_append hrest]
  dsimp only
  rw [splitExponent_append hrest]

theorem startsWithBarePoint_of_ne {c : Char} (h : c ≠ '.') (cs : List Char) :
    startsWithBarePoint (c :: cs) = false := by
  rw [startsWithBarePoint.eq_def]
  split
  · rename_i heq
    cases heq
    exact absurd rfl h
  · rename_i heq
    cases heq
    exact absurd rfl h
  · rfl

theorem startsWithBarePoint_append (hrest : Separated rest) (c : Char) (cs : List Char) :
    startsWithBarePoint (c :: cs ++ rest) = startsWithBarePoint (c :: cs) := by
  by_cases hc : c = '.'
  · subst hc
    rcases cs with _ | ⟨d, cs⟩
    · rcases rest with _ | ⟨d, rest⟩
      · rfl
      · have hdigit : isDigit d = false := hrest.stop_isDigit d rfl
        rw [List.cons_append, List.nil_append, startsWithBarePoint, hdigit]
        rfl
    · rfl
  · rw [List.cons_append, startsWithBarePoint_of_ne hc, startsWithBarePoint_of_ne hc]

theorem scanNumber_append {c : Char} {cs after : List Char} {x : Float}
    (h : scanNumber (c :: cs) = .ok (x, after)) (hrest : Separated rest) :
    scanNumber (c :: cs ++ rest) = .ok (x, after ++ rest) := by
  rw [scanNumber] at h ⊢
  rw [startsWithBarePoint_append hrest]
  split at h
  · cases h
  · rename_i hpoint
    rw [if_neg hpoint, splitNumeral_append hrest]
    dsimp only at h ⊢
    cases hread : Number.read? (splitNumeral (c :: cs)).1 with
    | none =>
        rw [hread] at h
        cases h
    | some y =>
        rw [hread] at h
        cases h
        rfl

/-! ## Words and operators -/

theorem scanWord_of_reserved {cs : List Char}
    (h : reservedWords.contains (String.ofList (cs.takeWhile isNameChar)) = true) :
    scanWord cs = (json (String.ofList (cs.takeWhile isNameChar)), cs.dropWhile isNameChar) :=
  if_pos h

theorem scanWord_of_call {cs after : List Char}
    (h : reservedWords.contains (String.ofList (cs.takeWhile isNameChar)) = false)
    (hafter : cs.dropWhile isNameChar = '(' :: after) :
    scanWord cs = (call (String.ofList (cs.takeWhile isNameChar)), after) := by
  simp only [scanWord, h, hafter]
  rfl

theorem scanWord_of_identifier {cs : List Char}
    (h : reservedWords.contains (String.ofList (cs.takeWhile isNameChar)) = false)
    (hafter : ∀ after, cs.dropWhile isNameChar ≠ '(' :: after) :
    scanWord cs
      = (identifier (String.ofList (cs.takeWhile isNameChar)), cs.dropWhile isNameChar) := by
  simp only [scanWord, h]
  rfl

theorem scanWord_append (hrest : Separated rest) (cs : List Char) :
    scanWord (cs ++ rest) = ((scanWord cs).1, (scanWord cs).2 ++ rest) := by
  have htake := takeWhile_append_of_stop hrest.stop_isNameChar cs
  have hdrop := dropWhile_append_of_stop hrest.stop_isNameChar cs
  cases hword : reservedWords.contains (String.ofList (cs.takeWhile isNameChar)) with
  | true =>
      rw [scanWord_of_reserved hword, scanWord_of_reserved (by rwa [htake]), htake, hdrop]
  | false =>
      by_cases hcall : ∃ after, cs.dropWhile isNameChar = '(' :: after
      · obtain ⟨after, hafter⟩ := hcall
        rw [hafter] at hdrop
        rw [scanWord_of_call hword hafter, scanWord_of_call (by rwa [htake]) hdrop, htake]
        rfl
      · have hafter : ∀ after, cs.dropWhile isNameChar ≠ '(' :: after :=
          fun after h => hcall ⟨after, h⟩
        have hafter' : ∀ after, (cs ++ rest).dropWhile isNameChar ≠ '(' :: after := by
          intro after heq
          rw [hdrop] at heq
          rcases hcs : cs.dropWhile isNameChar with _ | ⟨c, cs'⟩
          · rw [hcs, List.nil_append] at heq
            subst heq
            exact hrest.head_ne (d := '(') (by decide) rfl
          · rw [hcs] at heq hafter
            cases heq
            exact hafter _ rfl
        rw [scanWord_of_identifier hword hafter, scanWord_of_identifier (by rwa [htake]) hafter',
          htake, hdrop]

theorem scanCapture_append {cs after : List Char} {t : Lexeme}
    (h : scanCapture cs = .ok (t, after)) (hrest : Separated rest) :
    scanCapture (cs ++ rest) = .ok (t, after ++ rest) := by
  obtain ⟨hword, rfl, rfl⟩ := scanCapture_eq_ok_iff.1 h
  rw [scanCapture_eq_ok_iff, takeWhile_append_of_stop hrest.stop_isNameChar,
    dropWhile_append_of_stop hrest.stop_isNameChar]
  exact ⟨hword, rfl, rfl⟩

/-- What the reader of operators reads is what the symbol before the rest stands for. -/
theorem ofSymbol_of_scanOperator {c : Char} {cs after : List Char} {t : Lexeme}
    (h : scanOperator c cs = .ok (t, after)) :
    ∃ op, t = .operator op ∧ c :: cs = op.symbol.toList ++ after ∧
      Operator.ofSymbol op.symbol = .ok op := by
  unfold scanOperator at h
  split at h <;> cases h
  all_goals exact ⟨_, rfl, rfl, rfl⟩

theorem scanOperator_append {c : Char} {cs after : List Char} {t : Lexeme}
    (h : scanOperator c cs = .ok (t, after)) (hrest : Separated rest) :
    scanOperator c (cs ++ rest) = .ok (t, after ++ rest) := by
  -- an operator of one character is followed by none that would make it one of two
  have halone : (∀ ds, cs = '=' :: ds → False) → ∀ ds, cs ++ rest = '=' :: ds → False := by
    intro hcs ds heq
    rcases cs with _ | ⟨d, cs⟩
    · rw [List.nil_append] at heq
      subst heq
      exact hrest.head_ne (d := '=') (by decide) rfl
    · cases heq
      exact hcs _ rfl
  fun_cases scanOperator c cs with
  | case14 _ hcs =>
      rw [scanOperator] at h
      · cases h
        rw [scanOperator]
        exact halone hcs
      · exact hcs
  | case15 _ hcs =>
      rw [scanOperator] at h
      · cases h
        rw [scanOperator]
        exact halone hcs
      · exact hcs
  | case16 _ hcs =>
      rw [scanOperator] at h
      · cases h
        rw [scanOperator]
        exact halone hcs
      · exact hcs
  | case17 =>
      rw [scanOperator] at h
      · cases h
      all_goals assumption
  | _ =>
      cases h
      rfl

/-! ## Lexemes -/

theorem readAs_append {α : Type} {build : α → Lexeme} {r r' : Except Fault (α × List Char)}
    {t : Lexeme} {after : List Char} (h : readAs build r = .ok (t, after))
    (hr : ∀ a, r = .ok (a, after) → r' = .ok (a, after ++ rest)) :
    readAs build r' = .ok (t, after ++ rest) := by
  obtain ⟨a, ha, rfl⟩ := readAs_eq_ok_iff.1 h
  rw [hr a ha, readAs]

/-- A lexeme is read alike whatever follows the text. -/
theorem scanOne_append {operandDue : Bool} {c : Char} {cs after : List Char} {t : Lexeme}
    (h : scanOne operandDue c cs = .ok (t, after)) (hrest : Separated rest) :
    scanOne operandDue c (cs ++ rest) = .ok (t, after ++ rest) := by
  obtain ⟨reader, -, hread⟩ := exists_reader operandDue c
  rw [hread] at h ⊢
  cases reader with
  | bracket => exact scanBracket_append h rest
  | pattern => exact readAs_append h fun _ hr => scanPattern_append hr hrest
  | text => exact readAs_append h fun _ hr => scanText_append hr rest
  | openParen | closeParen | comma =>
      cases h
      rfl
  | number => exact readAs_append h fun _ hr => scanNumber_append hr hrest
  | word =>
      dsimp only [Reader.read] at h ⊢
      rw [← List.cons_append, scanWord_append hrest, Except.ok.inj h]
  | capture => exact scanCapture_append h hrest
  | operator => exact scanOperator_append h hrest

/-! ## Whole texts -/

theorem scanFrom_of_blank (operandDue : Bool) {cs : List Char} (h : cs.dropWhile isBlank = []) :
    scanFrom operandDue cs = .ok [] := by
  rw [scanFrom]
  split
  · rfl
  · rename_i heq
    rw [h] at heq
    cases heq

theorem scanFrom_nil (operandDue : Bool) : scanFrom operandDue [] = .ok [] :=
  scanFrom_of_blank operandDue rfl

/-- The first lexeme of a text, and the lexemes after it. -/
theorem scanFrom_of_scanOne {operandDue : Bool} {cs tail after : List Char} {c : Char} {t : Lexeme}
    (hcs : cs.dropWhile isBlank = c :: tail) (ht : scanOne operandDue c tail = .ok (t, after)) :
    scanFrom operandDue cs = (scanFrom (!t.endsOperand) after).map (t :: ·) := by
  rw [scanFrom]
  split
  · rename_i heq
    rw [hcs] at heq
    cases heq
  · rename_i heq
    rw [hcs] at heq
    cases heq
    split
    · rename_i heq
      rw [ht] at heq
      cases heq
    · rename_i heq
      rw [ht] at heq
      cases heq
      rfl

theorem scanFrom_of_scanOne_error {operandDue : Bool} {cs tail : List Char} {c : Char} {e : Fault}
    (hcs : cs.dropWhile isBlank = c :: tail) (he : scanOne operandDue c tail = .error e) :
    scanFrom operandDue cs = .error e := by
  rw [scanFrom]
  split
  · rename_i heq
    rw [hcs] at heq
    cases heq
  · rename_i heq
    rw [hcs] at heq
    cases heq
    split
    · rename_i heq
      rw [he] at heq
      cases heq
      rfl
    · rename_i heq
      rw [he] at heq
      cases heq

/-- A text has no lexemes exactly if it is blank. -/
theorem scanFrom_eq_nil_iff {operandDue : Bool} {cs : List Char} :
    scanFrom operandDue cs = .ok [] ↔ cs.dropWhile isBlank = [] := by
  refine ⟨fun h => ?_, scanFrom_of_blank operandDue⟩
  rcases hcs : cs.dropWhile isBlank with _ | ⟨c, tail⟩
  · rfl
  · cases hone : scanOne operandDue c tail with
    | error e =>
        rw [scanFrom_of_scanOne_error hcs hone] at h
        cases h
    | ok read =>
        rw [scanFrom_of_scanOne hcs hone] at h
        obtain ⟨us, -, heq⟩ := Outcome.map_eq_ok_iff.1 h
        cases heq

/-- A text has a first lexeme and others after it exactly if that one is read first, and the
others from what it leaves. -/
theorem scanFrom_eq_cons_iff {operandDue : Bool} {cs : List Char} {t : Lexeme}
    {ts : List Lexeme} :
    scanFrom operandDue cs = .ok (t :: ts) ↔
      ∃ c tail after, cs.dropWhile isBlank = c :: tail ∧
        scanOne operandDue c tail = .ok (t, after) ∧
        scanFrom (!t.endsOperand) after = .ok ts := by
  constructor
  · intro h
    rcases hcs : cs.dropWhile isBlank with _ | ⟨c, tail⟩
    · rw [scanFrom_of_blank operandDue hcs] at h
      cases h
    · cases hone : scanOne operandDue c tail with
      | error e =>
          rw [scanFrom_of_scanOne_error hcs hone] at h
          cases h
      | ok read =>
          obtain ⟨u, after⟩ := read
          rw [scanFrom_of_scanOne hcs hone] at h
          obtain ⟨us, hus, heq⟩ := Outcome.map_eq_ok_iff.1 h
          cases heq
          exact ⟨c, tail, after, rfl, hone, hus⟩
  · rintro ⟨c, tail, after, hcs, hone, hts⟩
    rw [scanFrom_of_scanOne hcs hone, hts]
    rfl

/-- The blanks at the start of a text make no difference. -/
theorem scanFrom_congr (operandDue : Bool) {cs ds : List Char}
    (h : cs.dropWhile isBlank = ds.dropWhile isBlank) :
    scanFrom operandDue cs = scanFrom operandDue ds := by
  rcases hds : ds.dropWhile isBlank with _ | ⟨c, tail⟩
  · rw [scanFrom_of_blank operandDue (h.trans hds), scanFrom_of_blank operandDue hds]
  · cases hone : scanOne operandDue c tail with
    | error e =>
        rw [scanFrom_of_scanOne_error (h.trans hds) hone, scanFrom_of_scanOne_error hds hone]
    | ok read =>
        rw [scanFrom_of_scanOne (h.trans hds) hone, scanFrom_of_scanOne hds hone]

/-- Whether an operand is due after lexemes. -/
def dueAfter (operandDue : Bool) (ts : List Lexeme) : Bool :=
  ts.foldl (fun _ t => !t.endsOperand) operandDue

/-- The lexemes of a text that goes on with a separator are those of the text, and then those of
what follows. -/
theorem scanFrom_append {operandDue : Bool} {cs : List Char} {ts : List Lexeme}
    (h : scanFrom operandDue cs = .ok ts) (hrest : Separated rest) :
    scanFrom operandDue (cs ++ rest) = (scanFrom (dueAfter operandDue ts) rest).map (ts ++ ·) := by
  fun_induction scanFrom operandDue cs generalizing ts with
  | case1 operandDue cs hcs =>
      cases h
      have hblanks : (cs ++ rest).dropWhile isBlank = rest.dropWhile isBlank :=
        List.dropWhile_append_of_pos (List.dropWhile_eq_nil_iff.1 hcs)
      rw [scanFrom_congr operandDue hblanks]
      exact (congrFun Except.map_id _).symm
  | case2 operandDue cs c tail hcs e he => cases h
  | case3 operandDue cs c tail hcs t after ht ih =>
      obtain ⟨us, hus, rfl⟩ := Outcome.map_eq_ok_iff.1 h
      have hcs' : (cs ++ rest).dropWhile isBlank = c :: (tail ++ rest) := by
        rw [List.dropWhile_append, hcs]
        rfl
      rw [scanFrom_of_scanOne hcs' (scanOne_append ht hrest), ih hus, Outcome.map_map]
      rfl

/-- Blanks at the ends of a text are no lexemes. -/
theorem scanFrom_of_trim {operandDue : Bool} {cs : List Char} {ts : List Lexeme}
    (h : scanFrom operandDue (Text.trim cs) = .ok ts) : scanFrom operandDue cs = .ok ts := by
  obtain ⟨blanks, hend, hblanks⟩ := Text.trimStart_eq_append cs
  have hstart : cs.dropWhile isBlank = (Text.trim cs ++ blanks).dropWhile isBlank := by
    rw [← hend]
    exact (Text.dropWhile_eq_self_of_stop (Text.startsVisibly_trimStart cs)).symm
  have hrest : Separated blanks := by
    intro c hc
    rw [separates, hblanks c (List.mem_of_mem_head? hc), Bool.or_true]
  rw [scanFrom_congr operandDue hstart, scanFrom_append h hrest,
    scanFrom_of_blank _ (List.dropWhile_eq_nil_iff.2 hblanks)]
  exact congrArg Except.ok (List.append_nil ts)

end Reckon.Lexeme
