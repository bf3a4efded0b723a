/-
# Reckon.Proofs.Lexeme.Spacing — lexemes and the gaps between them

Nothing of a text is lost when it is read: it consists of the texts of its lexemes and of the
blanks between them. How far a lexeme goes may depend on what follows, but once it has been read,
its text alone is read as the same lexeme (`scanOne_alone`), and so is its text with blanks after
it (`scanOne_append`). Hence the gaps can be replaced by others: the lexemes stay the same as long
as no gap between two of them is closed.
-/
import Reckon.Proofs.Lexeme.Passage

namespace Reckon.Lexeme

open Text (isBlank isDigit isLetter isSmallLetter isNameChar takeWhile_append_of_stop
  dropWhile_append_of_stop dropWhile_takeWhile)

variable {cs rest : List Char} {c : Char} {t : Lexeme}

/-! ## Literals and brackets -/

theorem splitAtStop?_alone {stop : Char} {body : List Char}
    (h : splitAtStop? stop cs = some (body, rest)) :
    splitAtStop? stop (body ++ [stop]) = some (body, []) := by
  fun_induction splitAtStop? stop cs generalizing body rest with
  | case1 => cases h
  | case2 => cases h
  | case3 c cs ih =>
      obtain ⟨⟨inner, rest'⟩, hinner, heq⟩ := Option.map_eq_some_iff.1 h
      cases heq
      rw [List.cons_append, List.cons_append, splitAtStop?, ih hinner]
      rfl
  | case4 cs hne =>
      cases h
      rw [List.nil_append, splitAtStop?, if_pos rfl]
      exact hne
  | case5 c cs hne hstop ih =>
      obtain ⟨⟨inner, rest'⟩, hinner, heq⟩ := Option.map_eq_some_iff.1 h
      cases heq
      rw [List.cons_append, splitAtStop?, if_neg hstop, ih hinner]
      · rfl
      · exact hne

theorem scanText_alone {quote : Char} {s : String} (h : scanText quote cs = .ok (s, rest)) :
    ∃ body, cs = body ++ rest ∧ scanText quote body = .ok (s, []) := by
  rw [scanText] at h
  split at h
  · cases h
  rename_i raw after hsplit
  split at h
  · cases h
  rename_i s' hraw
  cases h
  refine ⟨raw ++ [quote], ?_, ?_⟩
  · rw [(closingOffset?_of_splitAtStop? hsplit).1, List.append_assoc, List.singleton_append]
  · rw [scanText, splitAtStop?_alone hsplit]
    dsimp only
    rw [hraw]

theorem scanPattern_alone {s : String} (h : scanPattern cs = .ok (s, rest)) :
    ∃ body, cs = body ++ rest ∧ scanPattern body = .ok (s, []) := by
  rw [scanPattern] at h
  split at h
  · cases h
  · cases h
  rename_i raw after hne hsplit
  cases h
  refine ⟨raw ++ ['/'] ++ after.takeWhile isLetter, ?_, ?_⟩
  · rw [(closingOffset?_of_splitAtStop? hsplit).1, List.append_assoc,
      List.takeWhile_append_dropWhile, List.append_assoc, List.singleton_append]
  · rw [scanPattern, splitAtStop?_append (splitAtStop?_alone hsplit), List.nil_append]
    rcases raw with _ | ⟨d, raw⟩
    · exact absurd rfl hne
    · dsimp only
      rw [List.takeWhile_idem, dropWhile_takeWhile]

/-- The bracket that closes another one is found in what stands before it and itself. -/
theorem closingOffset?_of_append {depth : Nat} {quote : Option Char} {cs rest : List Char}
    {n : Nat} (h : closingOffset? depth quote (cs ++ rest) = some n) (hn : n < cs.length) :
    closingOffset? depth quote cs = some n := by
  fun_induction closingOffset? depth quote cs generalizing n with
  | case1 => exact absurd hn (Nat.not_lt_zero n)
  | case2 depth c cs hopen ih =>
      rw [List.cons_append, closingOffset?_opening hopen] at h
      obtain ⟨m, hm, rfl⟩ := Option.map_eq_some_iff.1 h
      rw [ih hm (Nat.lt_of_succ_lt_succ hn)]
      rfl
  | case3 c cs hopen hclose =>
      simp only [List.cons_append, closingOffset?, hopen, hclose, if_true, Bool.false_eq_true,
        if_false] at h
      cases h
  | case4 c cs hopen hclose =>
      rw [List.cons_append, closingOffset?_last hclose] at h
      exact h
  | case5 c cs hopen hclose outer ih =>
      rw [List.cons_append, closingOffset?_closing hclose] at h
      obtain ⟨m, hm, rfl⟩ := Option.map_eq_some_iff.1 h
      rw [ih hm (Nat.lt_of_succ_lt_succ hn)]
      rfl
  | case6 depth c cs hopen hclose hquote ih =>
      rw [List.cons_append, closingOffset?_quote hquote] at h
      obtain ⟨m, hm, rfl⟩ := Option.map_eq_some_iff.1 h
      rw [ih hm (Nat.lt_of_succ_lt_succ hn)]
      rfl
  | case7 depth c cs hopen hclose hquote ih =>
      rw [List.cons_append, closingOffset?_plain hopen hclose hquote] at h
      obtain ⟨m, hm, rfl⟩ := Option.map_eq_some_iff.1 h
      rw [ih hm (Nat.lt_of_succ_lt_succ hn)]
      rfl
  | case8 depth quote =>
      rw [List.singleton_append, closingOffset?.eq_def] at h
      cases rest with
      | nil => cases h
      | cons d rest =>
          obtain ⟨m, hm, rfl⟩ := Option.map_eq_some_iff.1 h
          rw [List.length_singleton] at hn
          omega
  | case9 depth quote d cs ih =>
      rw [List.cons_append, List.cons_append, closingOffset?] at h
      obtain ⟨m, hm, rfl⟩ := Option.map_eq_some_iff.1 h
      rw [ih hm (Nat.lt_of_succ_lt_succ (Nat.lt_of_succ_lt_succ hn))]
      rfl
  | case10 depth quote c cs hne ih =>
      rw [List.cons_append, closingOffset?] at h
      · obtain ⟨m, hm, rfl⟩ := Option.map_eq_some_iff.1 h
        rw [ih hm (Nat.lt_of_succ_lt_succ hn)]
        rfl
      · exact hne

theorem scanBracket_alone {operandDue : Bool}
    (h : scanBracket operandDue c cs = .ok (t, rest)) :
    ∃ body, cs = body ++ rest ∧ scanBracket operandDue c body = .ok (t, []) := by
  obtain ⟨n, hend, rfl, rfl⟩ := scanBracket_eq_ok_iff.1 h
  have hlt : n < (c :: cs).length := (closingOffset?_append hend []).2
  have hle : n ≤ cs.length := Nat.le_of_lt_succ hlt
  have htake : (c :: cs.take n).length = n + 1 := by
    rw [List.length_cons, List.length_take_of_le hle]
  have hend' : balancedEnd? (c :: cs.take n) = some n := by
    have hsplit : balancedEnd? (c :: cs.take n ++ cs.drop n) = some n := by
      rwa [List.cons_append, List.take_append_drop]
    exact closingOffset?_of_append hsplit (by omega)
  refine ⟨cs.take n, (List.take_append_drop n cs).symm, ?_⟩
  refine scanBracket_eq_ok_iff.2 ⟨n, hend', bracketed_congr ?_, ?_⟩
  · rw [List.take_take, Nat.min_self]
  · exact (List.drop_eq_nil_iff.2 (List.length_take_le n cs)).symm

/-! ## Numbers -/

/-- A fraction is the point and the digits after it, or nothing. -/
theorem splitFraction_spec (cs : List Char) :
    cs = (splitFraction cs).1 ++ (splitFraction cs).2 ∧
      ((splitFraction cs).1 = [] ∨
        ∃ ds, (splitFraction cs).1 = '.' :: ds ∧ ∀ d ∈ ds, isDigit d = true) := by
  rw [splitFraction.eq_def]
  split
  · rename_i ds
    refine ⟨?_, .inr ⟨_, rfl, fun d => List.mem_takeWhile_imp⟩⟩
    rw [List.cons_append, List.takeWhile_append_dropWhile]
  · exact ⟨rfl, .inl rfl⟩

/-- An exponent starts with its letter and is an exponent whatever it was split off from. -/
theorem splitExponent_alone (cs : List Char) :
    cs = (splitExponent cs).1 ++ (splitExponent cs).2 ∧
      splitExponent (splitExponent cs).1 = ((splitExponent cs).1, []) ∧
      ∀ c ∈ (splitExponent cs).1.head?, isDigit c = false ∧ c ≠ '.' := by
  have hnone : cs = [] ++ cs ∧ splitExponent [] = ([], []) ∧
      ∀ c ∈ ([] : List Char).head?, isDigit c = false ∧ c ≠ '.' :=
    ⟨rfl, rfl, nofun⟩
  rw [splitExponent.eq_def]
  split
  · exact hnone
  · split
    · rename_i e cs he
      have hletter : ∀ c ∈ some e, isDigit c = false ∧ c ≠ '.' := by
        intro c hc
        cases hc
        rw [Bool.or_eq_true, beq_iff_eq, beq_iff_eq] at he
        rcases he with rfl | rfl <;> exact ⟨by decide, by decide⟩
      split
      · exact hnone
      · rename_i s ds
        split
        · rename_i hsign
          split
          · exact hnone
          · rename_i hdigits
            refine ⟨by simp, ?_, hletter⟩
            rw [splitExponent.eq_def]
            dsimp only
            rw [if_pos he, if_pos hsign, List.takeWhile_idem, dropWhile_takeWhile, if_neg hdigits]
        · rename_i hsign
          split
          · rename_i hdigit
            refine ⟨by simp, ?_, hletter⟩
            have hds : (s :: ds).takeWhile isDigit = s :: ds.takeWhile isDigit :=
              List.takeWhile_cons_of_pos hdigit
            rw [hds, splitExponent.eq_def]
            dsimp only
            rw [if_pos he, if_neg hsign, if_pos hdigit, ← hds, List.takeWhile_idem,
              dropWhile_takeWhile]
          · exact hnone
    · exact hnone

/-- Digits and a fraction are taken apart where something follows that goes on with neither. -/
theorem splitFraction_parts {digits fraction : List Char}
    (hdigits : ∀ d ∈ digits, isDigit d = true)
    (hfraction : fraction = [] ∨ ∃ ds, fraction = '.' :: ds ∧ ∀ d ∈ ds, isDigit d = true)
    (hhead : ∀ c ∈ rest.head?, isDigit c = false ∧ c ≠ '.') :
    (digits ++ fraction ++ rest).takeWhile isDigit = digits ∧
      splitFraction ((digits ++ fraction ++ rest).dropWhile isDigit) = (fraction, rest) := by
  have hstop : ∀ c ∈ rest.head?, isDigit c = false := fun c hc => (hhead c hc).1
  have hstop' : ∀ c ∈ (fraction ++ rest).head?, isDigit c = false := by
    rcases hfraction with rfl | ⟨ds, rfl, -⟩
    · exact hstop
    · rintro c ⟨⟩
      decide
  rw [List.append_assoc, takeWhile_append_of_stop hstop', dropWhile_append_of_stop hstop',
    List.takeWhile_eq_self_iff.2 hdigits, List.dropWhile_eq_nil_iff.2 hdigits, List.nil_append]
  refine ⟨rfl, ?_⟩
  rcases hfraction with rfl | ⟨ds, rfl, hds⟩
  · refine splitFraction.eq_2 rest fun ds hds => ?_
    exact (hhead '.' (by rw [hds]; rfl)).2 rfl
  · rw [List.cons_append, splitFraction, takeWhile_append_of_stop hstop,
      dropWhile_append_of_stop hstop, List.takeWhile_eq_self_iff.2 hds,
      List.dropWhile_eq_nil_iff.2 hds, List.nil_append]

/-- Digits, a fraction and an exponent are one numeral. -/
theorem splitNumeral_parts {digits fraction exponent : List Char}
    (hdigits : ∀ d ∈ digits, isDigit d = true)
    (hfraction : fraction = [] ∨ ∃ ds, fraction = '.' :: ds ∧ ∀ d ∈ ds, isDigit d = true)
    (hexponent : splitExponent exponent = (exponent, []))
    (hhead : ∀ c ∈ exponent.head?, isDigit c = false ∧ c ≠ '.') :
    splitNumeral (digits ++ fraction ++ exponent) = (digits ++ fraction ++ exponent, []) := by
  obtain ⟨htake, hsplit⟩ := splitFraction_parts hdigits hfraction hhead
  simp only [splitNumeral]
  rw [htake, hsplit]
  dsimp only
  rw [hexponent]

/-- A numeral is one without the text that it was split off from. -/
theorem splitNumeral_alone (cs : List Char) :
    cs = (splitNumeral cs).1 ++ (splitNumeral cs).2 ∧
      splitNumeral (splitNumeral cs).1 = ((splitNumeral cs).1, []) := by
  obtain ⟨hcs, hfraction⟩ := splitFraction_spec (cs.dropWhile isDigit)
  obtain ⟨hafter, hexponent, hhead⟩ := splitExponent_alone (splitFraction (cs.dropWhile isDigit)).2
  constructor
  · simp only [splitNumeral]
    rw [List.append_assoc, ← hafter, List.append_assoc, ← hcs, List.takeWhile_append_dropWhile]
  · exact splitNumeral_parts (fun d => List.mem_takeWhile_imp) hfraction hexponent hhead

/-- A numeral that starts with a point has a digit after it. -/
theorem startsWithBarePoint_splitNumeral (h : startsWithBarePoint cs = false) :
    startsWithBarePoint (splitNumeral cs).1 = false := by
  have hcs := (splitNumeral_alone cs).1
  rcases hnumeral : (splitNumeral cs).1 with _ | ⟨c, numeral⟩
  · rfl
  rw [hnumeral, List.cons_append] at hcs
  by_cases hc : c = '.'
  · subst hc
    rcases htail : numeral ++ (splitNumeral cs).2 with _ | ⟨d, tail⟩
    · rw [hcs, htail] at h
      cases h
    · have hdigit : isDigit d = true := by
        rw [hcs, htail] at h
        simpa [startsWithBarePoint] using h
      have hpoint : (splitNumeral ('.' :: d :: tail)).1.take 2 = ['.', d] := by
        simp [splitNumeral, splitFraction, hdigit, show isDigit '.' = false by decide]
      rw [← htail, ← hcs, hnumeral] at hpoint
      rcases numeral with _ | ⟨d', numeral⟩
      · cases hpoint
      · cases hpoint
        simpa [startsWithBarePoint] using hdigit
  · exact startsWithBarePoint_of_ne hc numeral

theorem scanNumber_alone {x : Float} (h : scanNumber cs = .ok (x, rest)) :
    ∃ body, cs = body ++ rest ∧ scanNumber body = .ok (x, []) := by
  obtain ⟨hcs, halone⟩ := splitNumeral_alone cs
  rw [scanNumber] at h
  split at h
  · cases h
  rename_i hpoint
  dsimp only at h
  split at h
  · rename_i y hread
    cases h
    refine ⟨_, hcs, ?_⟩
    rw [scanNumber, startsWithBarePoint_splitNumeral (Bool.eq_false_iff.2 hpoint),
      if_neg Bool.false_ne_true, halone]
    dsimp only
    rw [hread]
  · cases h

/-! ## Words and operators -/

theorem scanWord_alone (cs : List Char) :
    ∃ body, cs = body ++ (scanWord cs).2 ∧ scanWord body = ((scanWord cs).1, []) := by
  have hsplit : cs = cs.takeWhile isNameChar ++ cs.dropWhile isNameChar :=
    List.takeWhile_append_dropWhile.symm
  have htake : (cs.takeWhile isNameChar).takeWhile isNameChar = cs.takeWhile isNameChar :=
    List.takeWhile_idem
  have hdrop := dropWhile_takeWhile isNameChar cs
  cases hword : reservedWords.contains (String.ofList (cs.takeWhile isNameChar)) with
  | true =>
      rw [scanWord_of_reserved hword]
      refine ⟨_, hsplit, ?_⟩
      rw [scanWord_of_reserved (by rwa [htake]), htake, hdrop]
  | false =>
      by_cases hcall : ∃ after, cs.dropWhile isNameChar = '(' :: after
      · obtain ⟨after, hafter⟩ := hcall
        have hstop : ∀ c ∈ ['('].head?, isNameChar c = false := by
          rintro c ⟨⟩
          rfl
        have htake' := (takeWhile_append_of_stop hstop (cs.takeWhile isNameChar)).trans htake
        have hdrop' := dropWhile_append_of_stop hstop (cs.takeWhile isNameChar)
        rw [hdrop, List.nil_append] at hdrop'
        rw [scanWord_of_call hword hafter]
        refine ⟨cs.takeWhile isNameChar ++ ['('], ?_, ?_⟩
        · rw [List.append_assoc, List.singleton_append, ← hafter]
          exact hsplit
        · rw [scanWord_of_call (by rwa [htake']) hdrop', htake']
      · have hafter : ∀ after, cs.dropWhile isNameChar ≠ '(' :: after :=
          fun after h => hcall ⟨after, h⟩
        rw [scanWord_of_identifier hword hafter]
        refine ⟨_, hsplit, ?_⟩
        rw [scanWord_of_identifier (by rwa [htake]) (by rw [hdrop]; nofun), htake, hdrop]

theorem scanCapture_alone (h : scanCapture cs = .ok (t, rest)) :
    ∃ body, cs = body ++ rest ∧ scanCapture body = .ok (t, []) := by
  obtain ⟨hword, rfl, rfl⟩ := scanCapture_eq_ok_iff.1 h
  refine ⟨cs.takeWhile isNameChar, List.takeWhile_append_dropWhile.symm, ?_⟩
  rw [scanCapture_eq_ok_iff, List.takeWhile_idem, dropWhile_takeWhile]
  exact ⟨hword, rfl, rfl⟩

theorem scanOperator_alone (h : scanOperator c cs = .ok (t, rest)) :
    ∃ body, cs = body ++ rest ∧ scanOperator c body = .ok (t, []) := by
  unfold scanOperator at h
  split at h
  all_goals cases h
  all_goals first
    | exact ⟨[], rfl, rfl⟩
    | exact ⟨[_], rfl, rfl⟩

/-! ## Lexemes -/

theorem readAs_alone {α : Type} {build : α → Lexeme}
    {read : List Char → Except Fault (α × List Char)}
    (h : readAs build (read cs) = .ok (t, rest))
    (halone : ∀ a, read cs = .ok (a, rest) → ∃ body, cs = body ++ rest ∧ read body = .ok (a, [])) :
    ∃ body, cs = body ++ rest ∧ readAs build (read body) = .ok (t, []) := by
  obtain ⟨a, ha, rfl⟩ := readAs_eq_ok_iff.1 h
  obtain ⟨body, hcs, hbody⟩ := halone a ha
  exact ⟨body, hcs, by rw [hbody, readAs]⟩

/-- What is left when text has been used up is left of the text after the first character. -/
theorem exists_cons_of_length_lt {body : List Char} (h : c :: cs = body ++ rest)
    (hlength : rest.length < (c :: cs).length) : ∃ tail, body = c :: tail ∧ cs = tail ++ rest := by
  rcases body with _ | ⟨d, tail⟩
  · rw [List.nil_append] at h
    rw [h] at hlength
    exact absurd hlength (Nat.lt_irrefl _)
  · cases h
    exact ⟨tail, rfl, rfl⟩

/-- A lexeme is read from its own text as from the text that it was found in. -/
theorem scanOne_alone {operandDue : Bool} (h : scanOne operandDue c cs = .ok (t, rest)) :
    ∃ body, cs = body ++ rest ∧ scanOne operandDue c body = .ok (t, []) := by
  -- the first character stays, and so does the reader
  obtain ⟨reader, hstart, hread⟩ := exists_reader operandDue c
  simp only [hread] at h ⊢
  cases reader with
  | bracket => exact scanBracket_alone h
  | pattern => exact readAs_alone h fun _ hr => scanPattern_alone hr
  | text => exact readAs_alone h fun _ hr => scanText_alone hr
  | openParen | closeParen | comma =>
      cases h
      exact ⟨[], rfl, rfl⟩
  | number =>
      obtain ⟨x, hx, -⟩ := readAs_eq_ok_iff.1 h
      obtain ⟨body, hcs, hbody⟩ := readAs_alone h fun _ hr => scanNumber_alone hr
      obtain ⟨tail, rfl, htail⟩ := exists_cons_of_length_lt hcs (length_scanNumber hstart hx)
      exact ⟨tail, htail, hbody⟩
  | word =>
      obtain ⟨body, hcs, hbody⟩ := scanWord_alone (c :: cs)
      obtain ⟨tail, rfl, htail⟩ := exists_cons_of_length_lt hcs (length_scanWord hstart)
      rw [Except.ok.inj h] at htail hbody
      exact ⟨tail, htail, congrArg Except.ok hbody⟩
  | capture => exact scanCapture_alone h
  | operator => exact scanOperator_alone h

/-! ## Texts with gaps -/

/-- The text that starts with a gap, followed by pieces: the text of a lexeme and the gap after
it. -/
def spaced : List Char → List (List Char × List Char) → List Char
  | gap, [] => gap
  | gap, (body, next) :: pieces => gap ++ body ++ spaced next pieces

/-- The text has no characters but blanks. -/
def IsGap (cs : List Char) : Prop :=
  ∀ c ∈ cs, isBlank c = true

/-- The text is that of the lexeme `t`, read from its first character, which is no blank, to its
last. -/
def IsTextOf (operandDue : Bool) (t : Lexeme) (cs : List Char) : Prop :=
  ∃ c tail, cs = c :: tail ∧ isBlank c = false ∧ scanOne operandDue c tail = .ok (t, [])

/-- The texts are those of the lexemes, one for each, where an operand is due after each one that
does not end an operand. -/
def AreTextsOf : Bool → List Lexeme → List (List Char) → Prop
  | _, [], texts => texts = []
  | operandDue, t :: ts, texts =>
    ∃ body rest, texts = body :: rest ∧ IsTextOf operandDue t body ∧
      AreTextsOf (!t.endsOperand) ts rest

namespace AreTextsOf

variable {operandDue : Bool} {ts : List Lexeme} {texts : List (List Char)}

theorem length_eq (h : AreTextsOf operandDue ts texts) : texts.length = ts.length := by
  induction ts generalizing operandDue texts with
  | nil =>
      cases h
      rfl
  | cons t ts ih =>
      obtain ⟨body, rest, rfl, -, hrest⟩ := h
      rw [List.length_cons, List.length_cons, ih hrest]

theorem ne_nil (h : AreTextsOf operandDue ts texts) : ∀ body ∈ texts, body ≠ [] := by
  induction ts generalizing operandDue texts with
  | nil =>
      cases h
      nofun
  | cons t ts ih =>
      obtain ⟨body, rest, rfl, ⟨c, tail, rfl, -, -⟩, hrest⟩ := h
      intro body hbody
      rcases List.mem_cons.1 hbody with rfl | hbody
      · exact List.cons_ne_nil c tail
      · exact ih hrest body hbody

end AreTextsOf

/-- A text with lexemes consists of the texts of the lexemes and of gaps. -/
theorem exists_spaced_of_scanFrom {operandDue : Bool} {ts : List Lexeme}
    (h : scanFrom operandDue cs = .ok ts) :
    ∃ first pieces, cs = spaced first pieces ∧ IsGap first ∧ (∀ p ∈ pieces, IsGap p.2) ∧
      AreTextsOf operandDue ts (pieces.map Prod.fst) := by
  induction ts generalizing operandDue cs with
  | nil =>
      exact ⟨cs, [], rfl, List.dropWhile_eq_nil_iff.1 (scanFrom_eq_nil_iff.1 h), nofun, rfl⟩
  | cons t ts ih =>
      obtain ⟨c, tail, after, hcs, ht, hafter⟩ := scanFrom_eq_cons_iff.1 h
      obtain ⟨body, rfl, hbody⟩ := scanOne_alone ht
      obtain ⟨next, pieces, rfl, hnext, hpieces, htexts⟩ := ih hafter
      refine ⟨cs.takeWhile isBlank, (c :: body, next) :: pieces, ?_, ?_, ?_, ?_⟩
      · rw [spaced, List.append_assoc, List.cons_append, ← hcs, List.takeWhile_append_dropWhile]
      · exact fun c => List.mem_takeWhile_imp
      · intro p hp
        rcases List.mem_cons.1 hp with rfl | hp
        · exact hnext
        · exact hpieces p hp
      · refine ⟨c :: body, _, rfl, ⟨c, body, rfl, ?_, hbody⟩, htexts⟩
        exact Text.stop_dropWhile isBlank cs c (by rw [hcs]; rfl)

/-- What follows a lexeme is a gap, and not an empty one if there is a lexeme after it. -/
theorem separated_spaced {next : List Char} {pieces : List (List Char × List Char)}
    (hgap : IsGap next) (hinner : pieces ≠ [] → next ≠ []) : Separated (spaced next pieces) := by
  rcases next with _ | ⟨c, next⟩
  · rcases pieces with _ | ⟨p, pieces⟩
    · intro c hc
      cases hc
    · exact absurd rfl (hinner nofun)
  · have hblank : separates c = true := by
      rw [separates, hgap c List.mem_cons_self, Bool.or_true]
    cases pieces with
    | nil => exact separated_cons hblank next
    | cons p pieces => exact separated_cons hblank _

/-- The lexemes of a text with gaps are those that its pieces are the texts of. -/
theorem scanFrom_spaced {operandDue : Bool} {ts : List Lexeme} {first : List Char}
    {pieces : List (List Char × List Char)}
    (htexts : AreTextsOf operandDue ts (pieces.map Prod.fst)) (hfirst : IsGap first)
    (hgaps : ∀ p ∈ pieces, IsGap p.2) (hinner : ∀ p ∈ pieces.dropLast, p.2 ≠ []) :
    scanFrom operandDue (spaced first pieces) = .ok ts := by
  induction ts generalizing operandDue first pieces with
  | nil =>
      cases List.map_eq_nil_iff.1 htexts
      exact scanFrom_of_blank operandDue (List.dropWhile_eq_nil_iff.2 hfirst)
  | cons t ts ih =>
      obtain ⟨body, texts, heq, ⟨c, tail, rfl, hc, ht⟩, htexts⟩ := htexts
      obtain ⟨⟨_, next⟩, pieces, rfl, rfl, rfl⟩ := List.map_eq_cons_iff.1 heq
      have hnext : IsGap next := hgaps _ List.mem_cons_self
      have hsep : Separated (spaced next pieces) := by
        refine separated_spaced hnext fun hne => hinner (c :: tail, next) ?_
        rw [List.dropLast_cons_of_ne_nil hne]
        exact List.mem_cons_self
      have hcs : (spaced first ((c :: tail, next) :: pieces)).dropWhile isBlank
          = c :: (tail ++ spaced next pieces) := by
        rw [spaced, List.append_assoc, List.dropWhile_append_of_pos hfirst]
        exact List.dropWhile_cons_of_neg (by rw [hc]; exact Bool.false_ne_true)
      refine scanFrom_eq_cons_iff.2 ⟨c, _, _, hcs, scanOne_append ht hsep, ?_⟩
      refine ih htexts hnext (fun p hp => hgaps p (List.mem_cons_of_mem _ hp)) fun p hp => ?_
      apply hinner p
      rcases pieces with _ | ⟨q, pieces⟩
      · cases hp
      · exact List.mem_cons_of_mem _ hp

/-- Scanning loses nothing of a text, and it makes no difference to the lexemes how the text is
spaced: the text consists of gaps and of the texts of its lexemes, each of which is read from its
own text alone, where an operand is due after a lexeme that ends none; and with other gaps the
texts of the lexemes are read as the same lexemes, if no gap between two of them is empty. -/
theorem exists_spaced_of_scan {source : String} {ts : List Lexeme} (h : scan source = .ok ts) :
    ∃ first pieces, source = String.ofList (spaced first pieces) ∧ IsGap first ∧
      (∀ p ∈ pieces, p.1 ≠ [] ∧ IsGap p.2) ∧ pieces.length = ts.length ∧
      AreTextsOf true ts (pieces.map Prod.fst) ∧
      ∀ first' pieces', pieces'.map Prod.fst = pieces.map Prod.fst →
        IsGap first' → (∀ p ∈ pieces', IsGap p.2) → (∀ p ∈ pieces'.dropLast, p.2 ≠ []) →
        scan (String.ofList (spaced first' pieces')) = .ok ts := by
  obtain ⟨first, pieces, hsource, hfirst, hgaps, htexts⟩ := exists_spaced_of_scanFrom h
  refine ⟨first, pieces, ?_, hfirst, fun p hp => ⟨?_, hgaps p hp⟩, ?_, htexts, ?_⟩
  · rw [← hsource, String.ofList_toList]
  · exact htexts.ne_nil _ (List.mem_map_of_mem hp)
  · rw [← List.length_map, htexts.length_eq]
  · intro first' pieces' hsame hfirst' hgaps' hinner
    rw [scan, String.toList_ofList]
    exact scanFrom_spaced (hsame ▸ htexts) hfirst' hgaps' hinner

/-- A call of one lexeme, a selector, an operator of two characters and a pattern with a blank. -/
theorem exists_spaced_of_scan_matching :
    let source := " if(x)[ 0 ]=~/b c/i "
    let ts := [call "if", identifier "x", closeParen, index " 0 ", operator .matching,
      pattern "/b c/i"]
    scan source = .ok ts ∧
    ∃ first pieces, source = String.ofList (spaced first pieces) ∧ IsGap first ∧
      (∀ p ∈ pieces, p.1 ≠ [] ∧ IsGap p.2) ∧ pieces.length = ts.length ∧
      AreTextsOf true ts (pieces.map Prod.fst) ∧
      ∀ first' pieces', pieces'.map Prod.fst = pieces.map Prod.fst →
        IsGap first' → (∀ p ∈ pieces', IsGap p.2) → (∀ p ∈ pieces'.dropLast, p.2 ≠ []) →
        scan (String.ofList (spaced first' pieces')) = .ok ts := by
  have hscan : scan " if(x)[ 0 ]=~/b c/i " = .ok [call "if", identifier "x", closeParen,
      index " 0 ", operator .matching, pattern "/b c/i"] := by cbv
  exact ⟨hscan, exists_spaced_of_scan hscan⟩

end Reckon.Lexeme
