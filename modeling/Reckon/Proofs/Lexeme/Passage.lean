/-
# Reckon.Proofs.Lexeme.Passage — what the search for a closing bracket passes over

The partner of a bracket is looked for in the raw text, before there are lexemes. The search counts
brackets, and skips what stands between quotes. It goes from the start of each lexeme to its end
and finds as many brackets open as before: containers and selectors end where the same search says
so, both readers skip quoted text alike, and no other lexeme has brackets or quotes, but for one.
The search knows no patterns, so a bracket or a quote in a pattern literal counts. Hence it passes
over a text that can be read if it passes over the pattern literals in it (`PassedOver.of_scan`).
-/
import Reckon.Proofs.Lexeme.Append

namespace Reckon.Lexeme

open Text (isBlank isDigit isLetter isSmallLetter isNameChar)

variable {depth : Nat} {cs ds rest : List Char} {c : Char}

/-! ## Brackets inside brackets -/

/-- Inside more brackets the search finds the bracket that it found before, and goes on. -/
theorem closingOffset?_take {quote : Option Char} {n : Nat}
    (h : closingOffset? depth quote cs = some n) (outer : Nat) (rest : List Char) :
    closingOffset? (depth + outer + 1) quote (cs.take (n + 1) ++ rest)
      = (closingOffset? (outer + 1) none rest).map (· + (n + 1)) := by
  fun_induction closingOffset? depth quote cs generalizing n with
  | case1 => cases h
  | case2 depth c cs hopen ih =>
      obtain ⟨m, hm, rfl⟩ := Option.map_eq_some_iff.1 h
      rw [List.take_succ_cons, List.cons_append, closingOffset?_opening hopen,
        show depth + outer + 1 + 1 = depth + 1 + outer + 1 by omega, ih hm, Option.map_map]
      rfl
  | case3 => cases h
  | case4 c cs hopen hclose =>
      cases h
      rw [show 1 + outer + 1 = outer + 2 by omega, List.take_succ_cons, List.take_zero,
        List.singleton_append, closingOffset?_closing hclose]
  | case5 c cs hopen hclose inner ih =>
      obtain ⟨m, hm, rfl⟩ := Option.map_eq_some_iff.1 h
      rw [List.take_succ_cons, List.cons_append,
        show inner + 2 + outer + 1 = inner + 1 + outer + 2 by omega,
        closingOffset?_closing hclose, ih hm, Option.map_map]
      rfl
  | case6 depth c cs hopen hclose hquote ih =>
      obtain ⟨m, hm, rfl⟩ := Option.map_eq_some_iff.1 h
      rw [List.take_succ_cons, List.cons_append, closingOffset?_quote hquote, ih hm,
        Option.map_map]
      rfl
  | case7 depth c cs hopen hclose hquote ih =>
      obtain ⟨m, hm, rfl⟩ := Option.map_eq_some_iff.1 h
      rw [List.take_succ_cons, List.cons_append, closingOffset?_plain hopen hclose hquote,
        ih hm, Option.map_map]
      rfl
  | case8 => cases h
  | case9 depth quote d cs ih =>
      obtain ⟨m, hm, rfl⟩ := Option.map_eq_some_iff.1 h
      rw [List.take_succ_cons, List.take_succ_cons, List.cons_append, List.cons_append,
        closingOffset?, ih hm, Option.map_map]
      rfl
  | case10 depth quote c cs hne ih =>
      obtain ⟨m, hm, rfl⟩ := Option.map_eq_some_iff.1 h
      rw [List.take_succ_cons, List.cons_append, closingOffset?, ih hm, Option.map_map]
      · rfl
      · exact hne

/-! ## Texts that are passed over -/

/-- The search, once inside a bracket, comes from the start of the text to its end with as many
brackets open. -/
def PassedOver (cs : List Char) : Prop :=
  ∀ depth rest, closingOffset? (depth + 1) none (cs ++ rest)
    = (closingOffset? (depth + 1) none rest).map (· + cs.length)

namespace PassedOver

theorem nil : PassedOver [] := by
  intro depth rest
  exact Option.map_id'.symm

theorem append (hcs : PassedOver cs) (hds : PassedOver ds) : PassedOver (cs ++ ds) := by
  intro depth rest
  rw [List.append_assoc, hcs, hds, Option.map_map, List.length_append]
  congr 1
  funext n
  simp only [Function.comp_apply]
  omega

theorem singleton (h : isMark c = false) : PassedOver [c] := by
  intro depth rest
  rw [List.singleton_append, closingOffset?_unmarked h, List.length_singleton]

theorem of_unmarked (h : ∀ c ∈ cs, isMark c = false) : PassedOver cs := by
  induction cs with
  | nil => exact nil
  | cons c cs ih =>
      exact append (singleton (h c List.mem_cons_self))
        (ih fun d hd => h d (List.mem_cons_of_mem _ hd))

theorem enclosed (h : PassedOver cs) {first last : Char} (hopen : isOpening first = true)
    (hclose : isClosing last = true) : PassedOver (first :: cs ++ [last]) := by
  intro depth rest
  rw [List.append_assoc, List.cons_append, closingOffset?_opening hopen, h,
    List.singleton_append, closingOffset?_closing hclose, Option.map_map, Option.map_map,
    List.length_append, List.length_cons, List.length_singleton]
  congr 1
  funext n
  simp only [Function.comp_apply]
  omega

/-- A bracket, its partner, and what stands between them. -/
theorem of_balancedEnd? {n : Nat} (h : balancedEnd? cs = some n) :
    PassedOver (cs.take (n + 1)) := by
  intro depth rest
  have hlength : (cs.take (n + 1)).length = n + 1 :=
    List.length_take_of_le (closingOffset?_append h []).2
  have htake := closingOffset?_take h depth rest
  rw [hlength, ← htake, Nat.zero_add]

/-- The partner of a bracket before the text is the one after it. -/
theorem balancedEnd?_eq (h : PassedOver cs) {first last : Char} (hopen : isOpening first = true)
    (hclose : isClosing last = true) :
    balancedEnd? (first :: (cs ++ [last])) = some (cs.length + 1) := by
  rw [balancedEnd?, closingOffset?_opening hopen, h, closingOffset?_last hclose]
  simp only [Option.map_some, Nat.zero_add]

end PassedOver

/-- A text that ends in the partner of the bracket it starts with is one lexeme. -/
theorem scanBracket_of_balancedEnd? {first last : Char} (operandDue : Bool)
    (h : balancedEnd? (first :: (cs ++ [last])) = some (cs.length + 1)) :
    scanBracket operandDue first (cs ++ [last])
      = .ok (if first == '[' && !operandDue then index (String.ofList cs)
          else json (String.ofList (first :: (cs ++ [last]))), []) := by
  have hdrop : (cs ++ [last]).drop (cs.length + 1) = [] := by
    rw [List.drop_eq_nil_iff, List.length_append, List.length_singleton]
  have hinner : (cs ++ [last]).take (cs.length + 1 - 1) = cs := List.take_left' rfl
  have hwhole : (first :: (cs ++ [last])).take (cs.length + 1 + 1) = first :: (cs ++ [last]) := by
    rw [List.take_of_length_le]
    rw [List.length_cons, List.length_append, List.length_singleton]
  rw [scanBracket, h]
  dsimp only
  rw [hdrop, hinner, hwhole]
  split
  · rfl
  · rfl

/-! ## From the start of a lexeme to its end -/

/-- The search passes over what stands before the rest of the text. -/
def PassesTo (cs rest : List Char) : Prop :=
  ∃ passed, cs = passed ++ rest ∧ PassedOver passed

namespace PassesTo

theorem refl (cs : List Char) : PassesTo cs cs :=
  ⟨[], rfl, .nil⟩

theorem trans {middle : List Char} (h : PassesTo cs middle) (h' : PassesTo middle rest) :
    PassesTo cs rest := by
  obtain ⟨first, rfl, hfirst⟩ := h
  obtain ⟨second, rfl, hsecond⟩ := h'
  exact ⟨first ++ second, (List.append_assoc _ _ _).symm, hfirst.append hsecond⟩

theorem cons (hc : isMark c = false) (h : PassesTo cs rest) : PassesTo (c :: cs) rest :=
  trans ⟨[c], rfl, .singleton hc⟩ h

theorem dropWhile {p : Char → Bool} (hp : ∀ c, p c = true → isMark c = false) (cs : List Char) :
    PassesTo cs (cs.dropWhile p) :=
  ⟨cs.takeWhile p, List.takeWhile_append_dropWhile.symm,
    .of_unmarked fun c hc => hp c (List.mem_takeWhile_imp hc)⟩

end PassesTo

/-- A class of characters without brackets and quotes. -/
theorem isMark_of_class {p : Char → Bool}
    (hp : ['[', '{', ']', '}', '"', '\''].any p = false) (h : p c = true) :
    isMark c = false := by
  have hne : ∀ d ∈ ['[', '{', ']', '}', '"', '\''], (c == d) = false := by
    intro d hd
    exact beq_eq_false_iff_ne.2 (Text.ne_of_class h (by simpa using List.any_eq_false.1 hp d hd))
  simp [isMark, isOpening, isClosing, isQuote, hne]

theorem isMark_of_isBlank (h : isBlank c = true) : isMark c = false :=
  isMark_of_class rfl h

theorem isMark_of_isDigit (h : isDigit c = true) : isMark c = false :=
  isMark_of_class rfl h

theorem isMark_of_isNameChar (h : isNameChar c = true) : isMark c = false :=
  isMark_of_class rfl h

/-! ## Literals -/

/-- A literal ends for the search where it ends for the reader. -/
theorem closingOffset?_of_splitAtStop? {stop : Char} {body : List Char}
    (h : splitAtStop? stop cs = some (body, rest)) :
    cs = body ++ stop :: rest ∧ ∀ depth after,
      closingOffset? depth (some stop) (body ++ stop :: after)
        = (closingOffset? depth none after).map (· + (body.length + 1)) := by
  fun_induction splitAtStop? stop cs generalizing body rest with
  | case1 => cases h
  | case2 => cases h
  | case3 c cs ih =>
      obtain ⟨⟨inner, rest'⟩, hinner, heq⟩ := Option.map_eq_some_iff.1 h
      cases heq
      obtain ⟨rfl, hafter⟩ := ih hinner
      refine ⟨rfl, fun depth after => ?_⟩
      rw [List.cons_append, List.cons_append, closingOffset?, hafter, Option.map_map]
      rfl
  | case4 cs hne =>
      cases h
      refine ⟨rfl, fun depth after => ?_⟩
      rw [List.nil_append, closingOffset?, if_pos rfl]
      · rfl
      · exact hne
  | case5 c cs hne hstop ih =>
      obtain ⟨⟨inner, rest'⟩, hinner, heq⟩ := Option.map_eq_some_iff.1 h
      cases heq
      obtain ⟨rfl, hafter⟩ := ih hinner
      refine ⟨rfl, fun depth after => ?_⟩
      rw [List.cons_append, closingOffset?, if_neg hstop, hafter, Option.map_map]
      · rfl
      · exact hne

/-- In a literal that nothing ends the search finds no bracket. -/
theorem closingOffset?_eq_none_of_splitAtStop? {stop : Char} (h : splitAtStop? stop cs = none) :
    closingOffset? depth (some stop) cs = none := by
  fun_induction splitAtStop? stop cs with
  | case1 => rw [closingOffset?]
  | case2 => rw [closingOffset?]
  | case3 c cs ih =>
      rw [closingOffset?, ih (Option.map_eq_none_iff.1 h)]
      rfl
  | case4 => cases h
  | case5 c cs hne hstop ih =>
      rw [closingOffset?, if_neg hstop, ih (Option.map_eq_none_iff.1 h)]
      · rfl
      · exact hne

/-- What stands between quotes is passed over together with them. -/
theorem PassedOver.quoted {quote : Char} {body : List Char} (hquote : isQuote quote = true)
    (h : splitAtStop? quote cs = some (body, rest)) : PassedOver (quote :: body ++ [quote]) := by
  obtain ⟨-, hoffset⟩ := closingOffset?_of_splitAtStop? h
  intro depth after
  rw [List.append_assoc, List.cons_append, closingOffset?_quote hquote, List.singleton_append,
    hoffset, Option.map_map, List.length_append]
  rfl

theorem passesTo_of_scanText {quote : Char} {s : String} (hquote : isQuote quote = true)
    (h : scanText quote cs = .ok (s, rest)) : PassesTo (quote :: cs) rest := by
  rw [scanText] at h
  split at h
  · cases h
  · rename_i raw after hsplit
    have hrest : after = rest := by
      split at h
      · cases h
      · cases h
        rfl
    subst hrest
    obtain ⟨rfl, -⟩ := closingOffset?_of_splitAtStop? hsplit
    exact ⟨quote :: raw ++ [quote], by simp, .quoted hquote hsplit⟩

/-- A pattern literal, with its slashes and flags, is what the text starts with. -/
theorem eq_append_of_scanPattern {s : String} (h : scanPattern cs = .ok (s, rest)) :
    '/' :: cs = s.toList ++ rest := by
  rw [scanPattern] at h
  split at h
  · cases h
  · cases h
  · rename_i body after _ hsplit
    cases h
    obtain ⟨rfl, -⟩ := closingOffset?_of_splitAtStop? hsplit
    simp

theorem passesTo_splitFraction (cs : List Char) : PassesTo cs (splitFraction cs).2 := by
  rw [splitFraction.eq_def]
  split
  · exact .cons rfl (.dropWhile (fun _ => isMark_of_isDigit) _)
  · exact .refl _

theorem passesTo_splitExponent (cs : List Char) : PassesTo cs (splitExponent cs).2 := by
  have hdigits := PassesTo.dropWhile (p := isDigit) fun _ => isMark_of_isDigit
  rw [splitExponent.eq_def]
  split
  · exact .refl _
  · split
    · rename_i e cs he
      have hletter : isMark e = false := by
        rw [Bool.or_eq_true, beq_iff_eq, beq_iff_eq] at he
        rcases he with rfl | rfl <;> rfl
      split
      · exact .refl _
      · rename_i s ds
        split
        · rename_i hs
          have hsign : isMark s = false := by
            rw [Bool.or_eq_true, beq_iff_eq, beq_iff_eq] at hs
            rcases hs with rfl | rfl <;> rfl
          split
          · exact .refl _
          · exact .cons hletter (.cons hsign (hdigits ds))
        · split
          · exact .cons hletter (hdigits (s :: ds))
          · exact .refl _
    · exact .refl _

theorem passesTo_of_scanNumber {x : Float} (h : scanNumber cs = .ok (x, rest)) :
    PassesTo cs rest := by
  have hnumeral : PassesTo cs (splitNumeral cs).2 :=
    (PassesTo.dropWhile (fun _ => isMark_of_isDigit) cs).trans
      ((passesTo_splitFraction _).trans (passesTo_splitExponent _))
  rw [scanNumber] at h
  split at h
  · cases h
  · dsimp only at h
    split at h
    · cases h
      exact hnumeral
    · cases h

/-! ## Other lexemes -/

/-- A container, or a selector with its brackets. -/
theorem passesTo_of_scanBracket {operandDue : Bool} {t : Lexeme}
    (h : scanBracket operandDue c cs = .ok (t, rest)) : PassesTo (c :: cs) rest := by
  obtain ⟨n, hend, -, rfl⟩ := scanBracket_eq_ok_iff.1 h
  refine ⟨(c :: cs).take (n + 1), ?_, .of_balancedEnd? hend⟩
  rw [← List.drop_succ_cons, List.take_append_drop]

theorem passesTo_scanWord (cs : List Char) : PassesTo cs (scanWord cs).2 := by
  have hword := PassesTo.dropWhile (fun _ => isMark_of_isNameChar) cs
  rw [scanWord]
  split
  · exact hword
  · split
    · rename_i hcall
      rw [hcall] at hword
      exact hword.trans (.cons rfl (.refl _))
    · exact hword

theorem passesTo_of_scanCapture {t : Lexeme} (h : scanCapture cs = .ok (t, rest)) :
    PassesTo ('$' :: cs) rest := by
  obtain ⟨-, -, rfl⟩ := scanCapture_eq_ok_iff.1 h
  exact .cons rfl (.dropWhile (fun _ => isMark_of_isNameChar) cs)

theorem passesTo_of_scanOperator {t : Lexeme} (h : scanOperator c cs = .ok (t, rest)) :
    PassesTo (c :: cs) rest := by
  unfold scanOperator at h
  split at h
  all_goals cases h
  all_goals first
    | exact .cons rfl (.cons rfl (.refl _))
    | exact .cons rfl (.refl _)

/-! ## Whole texts -/

/-- The search comes to the end of each lexeme, if it comes to the ends of the patterns. -/
theorem passesTo_of_scanOne {operandDue : Bool} {t : Lexeme}
    (h : scanOne operandDue c cs = .ok (t, rest))
    (hpattern : ∀ raw, t = pattern raw → PassedOver raw.toList) : PassesTo (c :: cs) rest := by
  obtain ⟨reader, hstart, hread⟩ := exists_reader operandDue c
  rw [hread] at h
  cases reader with
  | bracket => exact passesTo_of_scanBracket h
  | pattern =>
      obtain ⟨raw, hraw, rfl⟩ := readAs_eq_ok_iff.1 h
      rw [hstart.1]
      exact ⟨raw.toList, eq_append_of_scanPattern hraw, hpattern raw rfl⟩
  | text =>
      obtain ⟨s, hs, -⟩ := readAs_eq_ok_iff.1 h
      exact passesTo_of_scanText hstart hs
  | openParen | closeParen | comma =>
      cases hstart
      cases h
      exact .cons rfl (.refl _)
  | number =>
      obtain ⟨x, hx, -⟩ := readAs_eq_ok_iff.1 h
      exact passesTo_of_scanNumber hx
  | word =>
      have hword := passesTo_scanWord (c :: cs)
      rwa [Except.ok.inj h] at hword
  | capture =>
      cases hstart
      exact passesTo_of_scanCapture h
  | operator => exact passesTo_of_scanOperator h

theorem passesTo_nil_of_scanFrom {operandDue : Bool} {ts : List Lexeme}
    (h : scanFrom operandDue cs = .ok ts)
    (hpatterns : ∀ raw, pattern raw ∈ ts → PassedOver raw.toList) : PassesTo cs [] := by
  fun_induction scanFrom operandDue cs generalizing ts with
  | case1 operandDue cs hcs =>
      rw [← hcs]
      exact .dropWhile (fun _ => isMark_of_isBlank) cs
  | case2 => cases h
  | case3 operandDue cs c tail hcs t after ht ih =>
      obtain ⟨us, hus, rfl⟩ := Outcome.map_eq_ok_iff.1 h
      have hblanks := PassesTo.dropWhile (fun _ => isMark_of_isBlank) cs
      rw [hcs] at hblanks
      have hfirst := passesTo_of_scanOne ht fun raw hraw =>
        hpatterns raw (hraw ▸ List.mem_cons_self)
      have hrest := ih hus fun raw hraw => hpatterns raw (List.mem_cons_of_mem _ hraw)
      exact hblanks.trans (hfirst.trans hrest)

/-- A text that can be read is passed over, if the pattern literals in it are. -/
theorem PassedOver.of_scan {source : String} {ts : List Lexeme} (h : scan source = .ok ts)
    (hpatterns : ∀ raw, pattern raw ∈ ts → PassedOver raw.toList) : PassedOver source.toList := by
  obtain ⟨passed, hsource, hpassed⟩ := passesTo_nil_of_scanFrom h hpatterns
  rwa [hsource, List.append_nil]

end Reckon.Lexeme
