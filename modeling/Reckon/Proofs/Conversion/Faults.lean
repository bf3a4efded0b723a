/-
# Reckon.Proofs.Conversion.Faults — conversion never contradicts itself

A conversion can fail in many ways, but its counters, names and parentheses never come apart
(that is what `Reckon.Proofs.Conversion.Parsing` shows), and a call that was opened as one of a
known function is still one when it is closed. What is left are faults of the formula.

The code of a conversion is the post-order of a tree, and the functions it calls are known.
-/
import Reckon.Proofs.Code.Parts
import Reckon.Proofs.Conversion.Grammar

namespace Reckon

open Outcome (Clean raises_ok raises_error)

/-! ## Scanning -/

/-- Faults of a text that is no sequence of lexemes. -/
def Fault.isLexical : Fault → Bool
  | grammar (.illegalCharacter _) | grammar .unterminatedString | grammar (.invalidString _)
  | grammar .unterminatedPattern | grammar .emptyPattern | grammar (.unterminatedBracket _)
  | grammar (.invalidNumber _) => true
  | _ => false

theorem Fault.isDefect_of_isLexical {e : Fault} (h : e.isLexical = true) : e.isDefect = false := by
  cases e with
  | grammar cause => rfl
  | _ => cases h

namespace Lexeme

/-- The result is no fault but one of a text that is no sequence of lexemes. -/
abbrev Lexical {α : Type} (x : Except Fault α) : Prop :=
  Outcome.Raises (fun e => e.isLexical = true) x

theorem scanText_lexical (quote : Char) (cs : List Char) : Lexical (scanText quote cs) := by
  unfold scanText
  split
  · exact raises_error rfl
  · split
    · exact raises_error rfl
    · exact raises_ok _

theorem scanPattern_lexical (cs : List Char) : Lexical (scanPattern cs) := by
  unfold scanPattern
  split
  · exact raises_error rfl
  · exact raises_error rfl
  · exact raises_ok _

theorem scanNumber_lexical (cs : List Char) : Lexical (scanNumber cs) := by
  unfold scanNumber
  split
  · exact raises_error rfl
  · dsimp only
    split
    · exact raises_ok _
    · exact raises_error rfl

theorem scanBracket_lexical (operandDue : Bool) (c : Char) (cs : List Char) :
    Lexical (scanBracket operandDue c cs) := by
  unfold scanBracket
  split
  · exact raises_error rfl
  · split
    · exact raises_ok _
    · exact raises_ok _

theorem scanCapture_lexical (cs : List Char) : Lexical (scanCapture cs) := by
  unfold scanCapture
  dsimp only
  split
  · exact raises_error rfl
  · exact raises_ok _

theorem scanOperator_lexical (c : Char) (cs : List Char) : Lexical (scanOperator c cs) := by
  unfold scanOperator
  split <;> first | exact raises_ok _ | exact raises_error rfl

theorem readAs_lexical {α : Type} (build : α → Lexeme) {r : Except Fault (α × List Char)}
    (h : Lexical r) : Lexical (readAs build r) := by
  cases r with
  | error e => exact raises_error (h e rfl)
  | ok p => exact raises_ok _

theorem scanOne_lexical (operandDue : Bool) (c : Char) (cs : List Char) :
    Lexical (scanOne operandDue c cs) := by
  obtain ⟨reader, -, hread⟩ := exists_reader operandDue c
  rw [hread]
  cases reader with
  | bracket => exact scanBracket_lexical operandDue c cs
  | pattern => exact readAs_lexical _ (scanPattern_lexical cs)
  | text => exact readAs_lexical _ (scanText_lexical c cs)
  | openParen | closeParen | comma | word => exact raises_ok _
  | number => exact readAs_lexical _ (scanNumber_lexical _)
  | capture => exact scanCapture_lexical cs
  | operator => exact scanOperator_lexical c cs

theorem scanFrom_lexical (operandDue : Bool) (cs : List Char) :
    Lexical (scanFrom operandDue cs) := by
  fun_induction scanFrom operandDue cs with
  | case1 => exact raises_ok _
  | case2 operandDue cs c rest hcs e h => exact raises_error (scanOne_lexical _ _ _ e h)
  | case3 operandDue cs c rest hcs t rest' h ih => exact ih.map _

/-- A scan fails only because of the text. -/
theorem scan_lexical (source : String) : Lexical (scan source) :=
  scanFrom_lexical true source.toList

theorem scan_clean (source : String) : Clean (scan source) :=
  (scan_lexical source).mono fun _ => Fault.isDefect_of_isLexical

end Lexeme

/-! ## Parsing -/

namespace Parse

variable {arity? : String → Option Nat} {selector : String → Except Fault Phrase}

/-- The functions of all open calls are known. -/
def Known (arity? : String → Option Nat) (opened : List OpenPhrase) : Prop :=
  ∀ name done, .call name done ∈ opened → (arity? name).isSome = true

theorem Known.cons {f : OpenPhrase} {opened : List OpenPhrase} (h : Known arity? opened)
    (hf : ∀ name done, f ≠ .call name done) : Known arity? (f :: opened) := by
  intro name done hmem
  rcases List.mem_cons.1 hmem with heq | hmem
  · exact absurd heq.symm (hf name done)
  · exact h name done hmem

theorem Known.tail {f : OpenPhrase} {opened : List OpenPhrase}
    (h : Known arity? (f :: opened)) : Known arity? opened := by
  intro name done hmem
  exact h name done (List.mem_cons_of_mem _ hmem)

theorem Known.reduce {opened : List OpenPhrase} (h : Known arity? opened) (least : Nat)
    (p : Phrase) : Known arity? (Parse.reduce least opened p).1 := by
  induction opened generalizing p with
  | nil => exact h
  | cons f opened ih =>
      cases hf : f.operator? with
      | none =>
          rw [reduce_cons_of_none hf]
          exact h
      | some op =>
          by_cases hop : least ≤ op.precedence
          · rw [reduce_cons_of_le hf hop]
            exact ih h.tail _
          · rw [reduce_cons_of_lt hf (Nat.not_le.1 hop)]
            exact h

/-- A step is clean and keeps the functions of the open calls known. -/
def KeepsKnown (arity? : String → Option Nat) (x : Except Fault Parse) : Prop :=
  Clean x ∧ ∀ s, x = .ok s → Known arity? s.opened

theorem keepsKnown_ok {s : Parse} (h : Known arity? s.opened) : KeepsKnown arity? (.ok s) := by
  refine ⟨raises_ok s, fun s' hs => ?_⟩
  cases hs
  exact h

theorem keepsKnown_error {e : Fault} (h : e.isDefect = false) :
    KeepsKnown arity? (.error e) := by
  refine ⟨raises_error h, fun s hs => ?_⟩
  cases hs

theorem closeCall_keepsKnown {name : String} {done : List Phrase} {opened : List OpenPhrase}
    (h : Known arity? (.call name done :: opened)) (args : List Phrase) :
    KeepsKnown arity? (closeCall arity? name args opened) := by
  have hname := h name done List.mem_cons_self
  obtain ⟨expected, harity⟩ := Option.isSome_iff_exists.1 hname
  rw [closeCall, harity]
  dsimp only
  split
  · exact keepsKnown_ok h.tail
  · exact keepsKnown_error rfl

theorem stepDue_keepsKnown {opened : List OpenPhrase} (h : Known arity? opened) (t : Lexeme) :
    KeepsKnown arity? (stepDue arity? opened t) := by
  cases t with
  | number x => exact keepsKnown_ok h
  | text v => exact keepsKnown_ok h
  | json raw => exact keepsKnown_ok h
  | pattern raw => exact keepsKnown_ok h
  | identifier name => exact keepsKnown_ok h
  | call name =>
      rw [stepDue]
      split
      · rename_i hname
        apply keepsKnown_ok
        intro name' done hmem
        rcases List.mem_cons.1 hmem with heq | hmem
        · cases heq
          exact hname
        · exact h name' done hmem
      · refine keepsKnown_ok (Known.cons (f := .group)
          (Known.cons (f := .juxtaposed _) (h.reduce _ _) ?_) ?_)
        · simp
        · simp
  | openParen => exact keepsKnown_ok (h.cons (by simp))
  | closeParen =>
      rcases opened with _ | ⟨f, opened⟩
      · exact keepsKnown_error rfl
      · cases f with
        | call name done =>
            cases done with
            | nil => exact closeCall_keepsKnown h []
            | cons q done => exact keepsKnown_error rfl
        | _ => exact keepsKnown_error rfl
  | comma => exact keepsKnown_error rfl
  | operator op =>
      cases op with
      | subtract => exact keepsKnown_ok (h.cons (by simp))
      | not => exact keepsKnown_ok (h.cons (by simp))
      | _ => exact keepsKnown_error rfl
  | index raw => exact keepsKnown_error rfl

theorem stepAfter_keepsKnown (hselector : ∀ raw, Clean (selector raw))
    {opened : List OpenPhrase} (h : Known arity? opened) (p : Phrase) (t : Lexeme) :
    KeepsKnown arity? (stepAfter arity? selector opened p t) := by
  have hfactor : KeepsKnown arity?
      (stepDue arity? (.juxtaposed (reduce 4 opened p).2 :: (reduce 4 opened p).1) t) :=
    stepDue_keepsKnown (Known.cons (f := .juxtaposed _) (h.reduce 4 p) (by simp)) t
  have hone := h.reduce 1 p
  cases t with
  | number x => exact hfactor
  | identifier name => exact hfactor
  | call name => exact hfactor
  | openParen => exact hfactor
  | text v => exact keepsKnown_error rfl
  | json raw => exact keepsKnown_error rfl
  | pattern raw => exact keepsKnown_error rfl
  | closeParen =>
      rw [stepAfter]
      rcases hr : reduce 1 opened p with ⟨_ | ⟨f, rest⟩, q⟩
      · exact keepsKnown_error rfl
      · rw [hr] at hone
        cases f with
        | group => exact keepsKnown_ok hone.tail
        | call name done => exact closeCall_keepsKnown hone _
        | _ => exact keepsKnown_error rfl
  | comma =>
      rw [stepAfter]
      rcases hr : reduce 1 opened p with ⟨_ | ⟨f, rest⟩, q⟩
      · exact keepsKnown_error rfl
      · rw [hr] at hone
        cases f with
        | call name done =>
            apply keepsKnown_ok
            intro name' done' hmem
            rcases List.mem_cons.1 hmem with heq | hmem
            · cases heq
              exact hone name done List.mem_cons_self
            · exact hone name' done' (List.mem_cons_of_mem _ hmem)
        | _ => exact keepsKnown_error rfl
  | operator op =>
      rw [stepAfter]
      split
      · exact keepsKnown_ok (Known.cons (f := .binary _ op _) (h.reduce _ p) (by simp))
      · exact keepsKnown_error rfl
  | index raw =>
      rw [stepAfter]
      split
      · exact keepsKnown_error rfl
      · have hraw := hselector raw
        cases hsel : selector raw with
        | error e => exact keepsKnown_error (hraw e hsel)
        | ok contents => exact keepsKnown_ok h

theorem foldlM_step_keepsKnown (hselector : ∀ raw, Clean (selector raw)) (ts : List Lexeme)
    {s : Parse} (h : Known arity? s.opened) :
    KeepsKnown arity? (ts.foldlM (step arity? selector) s) := by
  induction ts generalizing s with
  | nil => exact keepsKnown_ok h
  | cons t ts ih =>
      have hstep : KeepsKnown arity? (step arity? selector s t) := by
        obtain ⟨opened, _ | p⟩ := s
        · exact stepDue_keepsKnown h t
        · exact stepAfter_keepsKnown hselector h p t
      rw [List.foldlM_cons]
      cases hs : step arity? selector s t with
      | error e => exact keepsKnown_error (hstep.1 e hs)
      | ok s' => exact ih (hstep.2 s' hs)

theorem finish_clean (s : Parse) : Clean s.finish := by
  obtain ⟨opened, _ | p⟩ := s
  · exact raises_error rfl
  · rw [finish]
    dsimp only
    split
    · exact raises_ok _
    · exact raises_error rfl

end Parse

namespace Phrase

variable {arity? : String → Option Nat}

theorem ofLexemes_clean {selector : String → Except Fault Phrase}
    (hselector : ∀ raw, Clean (selector raw)) (ts : List Lexeme) :
    Clean (ofLexemes arity? selector ts) := by
  rw [ofLexemes]
  split
  · exact raises_error rfl
  · have hstart : Parse.Known arity? [] := by
      intro name done hmem
      cases hmem
    exact (Parse.foldlM_step_keepsKnown hselector ts hstart).1.bind fun s _ => s.finish_clean

theorem ofSelector_clean (limit budget : Nat) (raw : String) :
    Clean (ofSelector arity? limit budget raw) := by
  induction budget generalizing raw with
  | zero => exact raises_error rfl
  | succ budget ih => exact (Lexeme.scan_clean raw).bind fun ts _ => ofLexemes_clean ih ts

end Phrase

/-- No conversion fails because of a defect. -/
theorem Code.ofFormula_clean (arity? : String → Option Nat) (limit : Nat) (source : String) :
    Clean (Code.ofFormula arity? limit source) := by
  rw [Code.ofFormula_eq_map_ofFormula]
  refine Outcome.Raises.map ?_ _
  exact (Lexeme.scan_clean source).bind fun ts _ =>
    Phrase.ofLexemes_clean (Phrase.ofSelector_clean limit limit) ts

/-! ## What is called -/

/-- The functions that a phrase calls are known. -/
theorem Derives.isSome_of_calls {arity? : String → Option Nat} {depth : Nat} {n : Nonterminal}
    {ts : List Lexeme} {p : Phrase} (h : Derives arity? depth n ts p) :
    ∀ name, p.code.Calls name → (arity? name).isSome = true := by
  intro name
  -- what a phrase calls is called by what it is derived from, down to the calls themselves
  induction h with
  | single _ _ ih => exact ih
  | chain _ _ _ _ ihp ihq =>
      intro hcalls
      exact (Expression.calls_binary.1 hcalls).elim ihp ihq
  | juxtaposed _ _ _ ihp ihq =>
      intro hcalls
      exact (Expression.calls_binary.1 hcalls).elim ihp ihq
  | negation _ ih =>
      intro hcalls
      exact ih (Expression.calls_prefixed.1 hcalls)
  | complement _ ih =>
      intro hcalls
      exact ih (Expression.calls_prefixed.1 hcalls)
  | raised _ _ ihp ihq =>
      intro hcalls
      exact (Expression.calls_binary.1 hcalls).elim ihp ihq
  | index _ _ _ ihp ihq =>
      intro hcalls
      rcases Expression.calls_index.1 hcalls with hcalls | hcalls
      · exact ihp hcalls
      · exact ihq (Expression.calls_selector.1 hcalls)
  | operand _ =>
      intro hcalls
      exact absurd hcalls Expression.not_calls_operand
  | group _ ih => exact ih
  | call parts harity _ ih =>
      intro hcalls
      rcases Expression.calls_call.1 hcalls with ⟨e, he, hcalls⟩ | rfl
      · rw [Phrase.expressions_eq_map, List.map_map] at he
        obtain ⟨part, hpart, rfl⟩ := List.mem_map.1 he
        exact ih part hpart hcalls
      · rw [harity]
        rfl

/-- The code of a conversion is that of a tree, and the functions it calls are known. -/
theorem Code.exists_postorder_of_ofFormula {arity? : String → Option Nat} {limit : Nat}
    {source : String} {code : Code} (h : Code.ofFormula arity? limit source = .ok code) :
    ∃ e : Expression, e.postorder = code ∧ ∀ name, code.Calls name → (arity? name).isSome = true := by
  rw [Code.ofFormula_eq_map_ofFormula] at h
  obtain ⟨p, hp, rfl⟩ := Outcome.map_eq_ok_iff.1 h
  obtain ⟨ts, hts, hparse⟩ := Outcome.bind_eq_ok_iff.1 hp
  have hderives := (Phrase.ofLexemes_eq_ok_iff limit limit ts p).1 hparse
  exact ⟨p.expression, rfl, hderives.isSome_of_calls⟩

end Reckon
