/-
# Reckon.Proofs.Conversion.Parsing — conversion is parsing, written down in post-order

A conversion under way looks at first like two unrelated lists: code, and a stack of operators,
parentheses, names and counts. Both are parts of one thing, the parse under way. `Parse.state`
says which: the code is the post-order of the complete parts, and the stack is what the open
phrases lack. Every lexeme does to the state of a conversion what it does to the parse
(`Conversion.step_state`), down to the fault if it fits nowhere. So a conversion gives the code
of the derivation tree (`Code.ofFormula_eq_map_ofFormula`), and the counters, names and
parentheses on its stack never come apart.
-/
import Reckon.Conversion.Formula
import Reckon.Proofs.Grammar.Parse
import Reckon.Proofs.Lexeme.Append

namespace Reckon

open Conversion (State ArgumentMark release releases unwind? flush)

/-! ## The state of a conversion as a view of a parse -/

namespace OpenPhrase

/-- What an open phrase leaves on the stack of a conversion, the top first. The count of a call
goes up when its next argument has begun. -/
def pending (begun : Bool) : OpenPhrase → List Pending
  | prefixed op _ => [.operator op]
  | binary _ op _ => [.operator op]
  | juxtaposed _ => [.operator .multiply]
  | group => [.openParen]
  | call name done =>
    [.openParen, .argumentCount (if begun then done.length + 1 else done.length), .call name]

/-- The code of the complete parts of an open phrase, the latest instruction first. -/
def output : OpenPhrase → List Instruction
  | prefixed _ _ | group => []
  | binary left _ _ => left.code.reverse
  | juxtaposed left => left.code.reverse
  | call _ done => done.flatMap fun p => p.code.reverse

theorem pending_of_operator? {f : OpenPhrase} {op : Operator} (h : f.operator? = some op)
    (begun : Bool) : f.pending begun = [.operator op] := by
  cases f <;> cases h <;> rfl

theorem reverse_code_close {f : OpenPhrase} {op : Operator} (h : f.operator? = some op)
    (p : Phrase) : (f.close p).code.reverse = .operator op :: (p.code.reverse ++ f.output) := by
  cases f <;> cases h <;>
    simp [close, output, Phrase.code, Phrase.expression, Expression.postorder]

end OpenPhrase

theorem Phrase.reverse_code_call (name : String) (args : List Phrase) :
    (Phrase.call name args).code.reverse
      = .call name args.length :: args.reverse.flatMap fun p => p.code.reverse := by
  have hall : ∀ ps : List Phrase, (Expression.postorderAll (Phrase.expressions ps)).reverse
      = ps.reverse.flatMap fun p => p.code.reverse := by
    intro ps
    induction ps with
    | nil => rfl
    | cons p ps ih =>
        rw [Phrase.expressions, Expression.postorderAll, List.reverse_append, ih,
          List.reverse_cons, List.flatMap_append, List.flatMap_singleton]
        rfl
  rw [Phrase.code, Phrase.expression, Expression.postorder, List.reverse_append, hall,
    Phrase.expressions_eq_map, List.length_map]
  rfl

theorem Phrase.reverse_code_index (target : Phrase) (raw : String) (contents : Phrase) :
    (Phrase.index target raw contents).code.reverse
      = .index :: .selector contents.code :: target.code.reverse := by
  rw [Phrase.code, Phrase.expression, Expression.postorder, Expression.postorder,
    List.append_assoc, List.reverse_append]
  rfl

namespace Parse

/-- What open phrases leave on the stack of a conversion. -/
def pendings : Bool → List OpenPhrase → List Pending
  | _, [] => []
  | begun, f :: opened => f.pending begun ++ pendings true opened

/-- The code of the complete parts of open phrases, the latest instruction first. -/
def outputs (opened : List OpenPhrase) : List Instruction :=
  opened.flatMap OpenPhrase.output

/-- Whether the next lexeme starts an argument, and which one. -/
def mark (s : Parse) : ArgumentMark :=
  match s.focus, s.opened with
  | none, .call _ [] :: _ => .opened
  | none, .call _ (_ :: _) :: _ => .next
  | _, _ => .none

/-- The state that a conversion is in. -/
def state (s : Parse) : State where
  output := (s.focus.elim [] fun p => p.code.reverse) ++ outputs s.opened
  stack := pendings s.focus.isSome s.opened
  operandDue := s.focus.isNone
  mark := s.mark

/-! ## Operators that are released -/

theorem releases_iff (op waiting : Operator) :
    releases op waiting = true ↔ threshold op ≤ waiting.precedence := by
  unfold releases threshold
  split
  · exact decide_eq_true_iff
  · exact decide_eq_true_iff

/-- What a binary operator releases are the open phrases that it completes. -/
theorem release_pendings (op : Operator) (opened : List OpenPhrase) (p : Phrase) :
    release op (pendings true opened) (p.code.reverse ++ outputs opened)
      = (pendings true (reduce (threshold op) opened p).1,
          (reduce (threshold op) opened p).2.code.reverse
            ++ outputs (reduce (threshold op) opened p).1) := by
  induction opened generalizing p with
  | nil => rfl
  | cons f opened ih =>
      cases hf : f.operator? with
      | none =>
          rw [reduce_cons_of_none hf]
          cases f with
          | group => rfl
          | call => rfl
          | _ => cases hf
      | some waiting =>
          rw [pendings, f.pending_of_operator? hf, List.singleton_append, release]
          by_cases h : threshold op ≤ waiting.precedence
          · rw [if_pos ((releases_iff op waiting).2 h), reduce_cons_of_le hf h, ← ih,
              f.reverse_code_close hf]
            simp only [outputs, List.flatMap_cons, List.cons_append, List.append_assoc]
          · rw [if_neg (fun hr => h ((releases_iff op waiting).1 hr)),
              reduce_cons_of_lt hf (Nat.not_le.1 h), pendings, f.pending_of_operator? hf]
            rfl

/-- Unwinding to the innermost parenthesis completes what is open inside it. -/
theorem unwind?_pendings (opened : List OpenPhrase) (p : Phrase) :
    unwind? (pendings true opened) (p.code.reverse ++ outputs opened)
      = match reduce 1 opened p with
        | ([], _) => none
        | (f :: opened, p) =>
          some ((f.pending true).tail ++ pendings true opened,
            p.code.reverse ++ outputs (f :: opened)) := by
  induction opened generalizing p with
  | nil => rfl
  | cons f opened ih =>
      cases hf : f.operator? with
      | none =>
          rw [reduce_cons_of_none hf]
          cases f with
          | group => rfl
          | call => rfl
          | _ => cases hf
      | some op =>
          rw [pendings, f.pending_of_operator? hf, List.singleton_append, unwind?,
            reduce_cons_of_le hf op.precedence_pos, ← ih, f.reverse_code_close hf]
          simp only [outputs, List.flatMap_cons, List.cons_append, List.append_assoc]

/-- At the end all that is open is completed, if no parenthesis is. -/
theorem flush_pendings (opened : List OpenPhrase) (p : Phrase) :
    flush (pendings true opened) (p.code.reverse ++ outputs opened)
      = match reduce 1 opened p with
        | ([], p) => .ok p.code.reverse
        | _ => .error (.grammar .missingClose) := by
  induction opened generalizing p with
  | nil =>
      rw [pendings, flush, outputs, List.flatMap_nil, List.append_nil]
      rfl
  | cons f opened ih =>
      cases hf : f.operator? with
      | none =>
          rw [reduce_cons_of_none hf]
          cases f with
          | group => rfl
          | call => rfl
          | _ => cases hf
      | some op =>
          rw [pendings, f.pending_of_operator? hf, List.singleton_append, flush,
            reduce_cons_of_le hf op.precedence_pos, ← ih, f.reverse_code_close hf]
          simp only [outputs, List.flatMap_cons, List.cons_append, List.append_assoc]

/-! ## One lexeme -/

/-- The state in which an operand is due and the argument that it starts has been counted. -/
def due (opened : List OpenPhrase) : State where
  output := outputs opened
  stack := pendings true opened

/-- Where an operand is due, every lexeme but a closing parenthesis counts as the start of an
argument if an argument starts there. -/
theorem countArgument_due (opened : List OpenPhrase) {t : Lexeme} (ht : t ≠ .closeParen) :
    Conversion.countArgument (state ⟨opened, none⟩) t
      = .ok { due opened with mark := (state ⟨opened, none⟩).mark } := by
  rcases opened with _ | ⟨f, opened⟩
  · rfl
  · cases f with
    | call name done =>
        cases done <;> cases t <;> first | exact absurd rfl ht | rfl
    | _ => rfl

/-- After a complete phrase no argument starts. -/
theorem countArgument_after (opened : List OpenPhrase) (p : Phrase) (t : Lexeme) :
    Conversion.countArgument (state ⟨opened, some p⟩) t = .ok (state ⟨opened, some p⟩) :=
  rfl

theorem pushOperator_after (op : Operator) (opened : List OpenPhrase) (p : Phrase) :
    (state ⟨opened, some p⟩).pushOperator op
      = { output := (reduce (threshold op) opened p).2.code.reverse
            ++ outputs (reduce (threshold op) opened p).1
          stack := .operator op :: pendings true (reduce (threshold op) opened p).1
          operandDue := false } := by
  show State.mk _ _ _ _ = State.mk _ _ _ _
  simp only [state, Option.elim, Option.isSome]
  rw [release_pendings]
  rfl

/-- A product without a sign makes an operand due. -/
theorem multiplyIfDone_after (opened : List OpenPhrase) (p : Phrase) :
    { (state ⟨opened, some p⟩).multiplyIfDone with operandDue := true }
      = due (.juxtaposed (reduce (threshold .multiply) opened p).2
          :: (reduce (threshold .multiply) opened p).1) := by
  have h : (state ⟨opened, some p⟩).multiplyIfDone
      = (state ⟨opened, some p⟩).pushOperator .multiply := rfl
  rw [h, pushOperator_after]
  rfl

/-- A call takes nothing from the state but what is left after a product without a sign. -/
theorem takeCall_multiplyIfDone (arity? : String → Option Nat) (s : State) (name : String) :
    Conversion.takeCall arity? { s.multiplyIfDone with operandDue := true } name
      = Conversion.takeCall arity? s name := by
  unfold Conversion.takeCall
  split <;> rfl

variable (arity? : String → Option Nat) (selector : String → Except Fault Phrase)

theorem takeCall_due (opened : List OpenPhrase) (name : String) :
    .ok (Conversion.takeCall arity? (due opened) name)
      = (stepDue arity? opened (.call name)).map state := by
  by_cases hf : (arity? name).isSome = true
  · rw [stepDue, if_pos hf]
    simp only [Conversion.takeCall, if_pos hf]
    rfl
  · have h := pushOperator_after .multiply opened (.operand (.identifier name))
    have hs : ((due opened).emit (.operand (.identifier name))).pushOperator .multiply
        = { (state ⟨opened, some (.operand (.identifier name))⟩).pushOperator .multiply with
            operandDue := true } := rfl
    rw [stepDue, if_neg hf]
    simp only [Conversion.takeCall, if_neg hf]
    show Except.ok { ((((due opened).emit (.operand (.identifier name))).pushOperator
      .multiply).push .openParen) with operandDue := true } = _
    rw [hs, h]
    rfl

/-- Closing the parenthesis of a call completes the call. -/
theorem takeClose_call (afterCallOpen : Bool) (opened : List OpenPhrase) (name : String)
    (args : List Phrase) {s : State} (hdue : (s.operandDue && !afterCallOpen) = false)
    (hmark : s.mark = .none)
    (hs : unwind? s.stack s.output = some (.argumentCount args.length :: .call name ::
      pendings true opened, (args.reverse.flatMap fun p => p.code.reverse) ++ outputs opened)) :
    Conversion.takeClose arity? afterCallOpen s
      = (closeCall arity? name args opened).map state := by
  unfold Conversion.takeClose Conversion.closeParen closeCall
  rw [if_neg (Bool.eq_false_iff.1 hdue), hs]
  dsimp only
  cases hf : arity? name with
  | none => rfl
  | some expected =>
      by_cases hlen : args.length = expected
      · simp only [if_pos hlen]
        show Except.ok (State.mk _ _ _ _) = Except.ok (State.mk _ _ _ _)
        rw [hmark]
        simp only [Option.elim, Phrase.reverse_code_call, List.cons_append]
        rfl
      · simp only [if_neg hlen]
        rfl

/-- A closing parenthesis where an operand is due closes the call just opened, if there is
one. -/
theorem step_state_due_close (opened : List OpenPhrase) (selector : String → Except Fault Code) :
    Conversion.step arity? selector (state ⟨opened, none⟩) .closeParen
      = (stepDue arity? opened .closeParen).map state := by
  have hcount : Conversion.countArgument (state ⟨opened, none⟩) .closeParen
      = .ok (state ⟨opened, none⟩) := by
    unfold Conversion.countArgument
    split <;> first | rfl | contradiction
  unfold Conversion.step
  rw [hcount]
  rcases opened with _ | ⟨f, opened⟩
  · rfl
  · cases f with
    | call name done =>
        cases done with
        | nil =>
            exact takeClose_call arity? true opened name [] rfl rfl
              (s := { state ⟨.call name [] :: opened, none⟩ with mark := .none }) rfl
        | cons p done => rfl
    | _ => rfl

/-- Where an operand is due, a lexeme does to the state of a conversion what it does to the
parse. -/
theorem step_state_due (opened : List OpenPhrase) {t : Lexeme} (ht : t ≠ .operator .negate)
    (selector : String → Except Fault Code) :
    Conversion.step arity? selector (state ⟨opened, none⟩) t
      = (stepDue arity? opened t).map state := by
  by_cases hclose : t = .closeParen
  · rw [hclose]
    exact step_state_due_close arity? opened selector
  · unfold Conversion.step
    rw [countArgument_due opened hclose]
    cases t with
    | closeParen => exact absurd rfl hclose
    | call name => exact takeCall_due arity? opened name
    | operator op =>
        cases op with
        | negate => exact absurd rfl ht
        | _ => rfl
    | _ => rfl

/-- A lexeme that starts a factor is taken after a complete phrase as it is where an operand is
due, after the product without a sign that it shows. -/
theorem step_state_factor (opened : List OpenPhrase) (p : Phrase) {t : Lexeme}
    (ht : t.startsFactor = true) (selector : String → Except Fault Code) :
    Conversion.step arity? selector (state ⟨opened, some p⟩) t
      = (stepDue arity? (.juxtaposed (reduce (threshold .multiply) opened p).2
          :: (reduce (threshold .multiply) opened p).1) t).map state := by
  unfold Conversion.step
  rw [countArgument_after]
  cases t with
  | call name =>
      rw [← takeCall_due, ← multiplyIfDone_after, takeCall_multiplyIfDone]
      rfl
  | openParen =>
      show Except.ok (State.push { (state ⟨opened, some p⟩).multiplyIfDone with
        operandDue := true } .openParen) = _
      rw [multiplyIfDone_after]
      rfl
  | number x =>
      show Except.ok (((state ⟨opened, some p⟩).pushOperator .multiply).emit _) = _
      rw [pushOperator_after]
      rfl
  | identifier name =>
      show Except.ok (((state ⟨opened, some p⟩).pushOperator .multiply).emit _) = _
      rw [pushOperator_after]
      rfl
  | _ => cases ht

/-- A closing parenthesis after a complete phrase closes what is open. -/
theorem step_state_close (opened : List OpenPhrase) (p : Phrase)
    (selector' : String → Except Fault Code) :
    Conversion.step arity? selector' (state ⟨opened, some p⟩) .closeParen
      = (stepAfter arity? selector opened p .closeParen).map state := by
  have hunwind : unwind? (state ⟨opened, some p⟩).stack (state ⟨opened, some p⟩).output = _ :=
    unwind?_pendings opened p
  have hdue : ((state ⟨opened, some p⟩).operandDue && !false) = false := rfl
  show Conversion.takeClose arity? false (state ⟨opened, some p⟩) = _
  rw [stepAfter]
  rcases h : reduce 1 opened p with ⟨_ | ⟨f, rest⟩, q⟩
  · rw [h] at hunwind
    unfold Conversion.takeClose Conversion.closeParen
    rw [if_neg (Bool.eq_false_iff.1 hdue), hunwind]
    rfl
  · rw [h] at hunwind
    have hf := operator?_of_reduce_one h
    cases f with
    | group =>
        unfold Conversion.takeClose Conversion.closeParen
        rw [if_neg (Bool.eq_false_iff.1 hdue), hunwind]
        -- what is below the parenthesis is no count
        rcases rest with _ | ⟨_ | _ | _ | _ | _, rest⟩ <;> rfl
    | call name done =>
        apply takeClose_call arity? false rest name (q :: done).reverse hdue rfl
        rw [hunwind, List.reverse_reverse, List.length_reverse, List.flatMap_cons,
          List.append_assoc]
        rfl
    | _ => cases hf

/-- A comma after a complete phrase ends an argument. -/
theorem step_state_comma (opened : List OpenPhrase) (p : Phrase)
    (selector' : String → Except Fault Code) :
    Conversion.step arity? selector' (state ⟨opened, some p⟩) .comma
      = (stepAfter arity? selector opened p .comma).map state := by
  have hunwind : unwind? (state ⟨opened, some p⟩).stack (state ⟨opened, some p⟩).output = _ :=
    unwind?_pendings opened p
  have hdue : ¬ (state ⟨opened, some p⟩).operandDue = true := Bool.false_ne_true
  show Conversion.takeComma (state ⟨opened, some p⟩) = _
  unfold Conversion.takeComma
  rw [stepAfter, if_neg hdue]
  rcases h : reduce 1 opened p with ⟨_ | ⟨f, rest⟩, q⟩
  · rw [h] at hunwind
    rw [hunwind]
    rfl
  · rw [h] at hunwind
    rw [hunwind]
    have hf := operator?_of_reduce_one h
    cases f with
    | group => rcases rest with _ | ⟨_ | _ | _ | _ | _, rest⟩ <;> rfl
    | call name done =>
        show Except.ok (State.mk _ _ _ _) = Except.ok (State.mk _ _ _ _)
        simp only [outputs, List.flatMap_cons, OpenPhrase.output, List.append_assoc]
        rfl
    | _ => cases hf

/-- After a complete phrase, a lexeme does to the state of a conversion what it does to the
parse. -/
theorem step_state_after (opened : List OpenPhrase) (p : Phrase) {t : Lexeme}
    (ht : t ≠ .operator .negate) :
    Conversion.step arity? (fun raw => (selector raw).map Phrase.code)
        (state ⟨opened, some p⟩) t
      = (stepAfter arity? selector opened p t).map state := by
  cases t with
  | closeParen => exact step_state_close arity? selector opened p _
  | comma => exact step_state_comma arity? selector opened p _
  | number x => exact step_state_factor arity? opened p rfl _
  | identifier name => exact step_state_factor arity? opened p rfl _
  | call name => exact step_state_factor arity? opened p rfl _
  | openParen => exact step_state_factor arity? opened p rfl _
  | text s => rfl
  | json raw => rfl
  | pattern raw => rfl
  | operator op =>
      cases op with
      | negate => exact absurd rfl ht
      | not => rfl
      | _ =>
          show Except.ok { (state ⟨opened, some p⟩).pushOperator _ with operandDue := true } = _
          rw [pushOperator_after]
          rfl
  | index raw =>
      show Conversion.takeIndex (fun raw => (selector raw).map Phrase.code)
        (state ⟨opened, some p⟩) raw = _
      have hdue : ¬ (state ⟨opened, some p⟩).operandDue = true := Bool.false_ne_true
      unfold Conversion.takeIndex
      rw [if_neg hdue, stepAfter]
      split
      · rfl
      · dsimp only
        cases selector raw with
        | error e => rfl
        | ok contents =>
            show Except.ok (State.mk _ _ _ _) = Except.ok (State.mk _ _ _ _)
            simp only [Option.elim, Phrase.reverse_code_index, List.cons_append]
            rfl

/-- Every lexeme does to the state of a conversion what it does to the parse. -/
theorem step_state (s : Parse) {t : Lexeme} (ht : t ≠ .operator .negate) :
    Conversion.step arity? (fun raw => (selector raw).map Phrase.code) s.state t
      = (step arity? selector s t).map state := by
  obtain ⟨opened, _ | p⟩ := s
  · exact step_state_due arity? opened ht _
  · exact step_state_after arity? selector opened p ht

/-- A conversion ends as the parse does. -/
theorem finish_state (s : Parse) : Conversion.finish s.state = s.finish.map Phrase.code := by
  obtain ⟨opened, _ | p⟩ := s
  · rfl
  · have hdue : ¬ (state ⟨opened, some p⟩).operandDue = true := Bool.false_ne_true
    have hflush : flush (state ⟨opened, some p⟩).stack (state ⟨opened, some p⟩).output = _ :=
      flush_pendings opened p
    unfold Conversion.finish
    rw [if_neg hdue, hflush, finish]
    dsimp only
    rcases reduce 1 opened p with ⟨_ | ⟨f, rest⟩, q⟩
    · show Except.ok q.code.reverse.reverse = _
      rw [List.reverse_reverse]
      rfl
    · rfl

/-- Lexemes do to the state of a conversion what they do to the parse. -/
theorem foldlM_step_state {ts : List Lexeme} (hts : .operator .negate ∉ ts) (s : Parse) :
    ts.foldlM (Conversion.step arity? fun raw => (selector raw).map Phrase.code) s.state
      = (ts.foldlM (step arity? selector) s).map state := by
  induction ts generalizing s with
  | nil => rfl
  | cons t ts ih =>
      have ht : t ≠ .operator .negate := fun h => hts (h ▸ List.mem_cons_self)
      rw [List.foldlM_cons, List.foldlM_cons, step_state arity? selector s ht]
      cases step arity? selector s t with
      | error e => rfl
      | ok s => exact ih (fun h => hts (List.mem_cons_of_mem t h)) s

end Parse

/-! ## Lexemes of a text -/

namespace Lexeme

theorem scanOperator_ne_negate {c : Char} {cs rest : List Char} {t : Lexeme}
    (h : scanOperator c cs = .ok (t, rest)) : t ≠ .operator .negate := by
  obtain ⟨op, rfl, -, hsymbol⟩ := ofSymbol_of_scanOperator h
  exact fun heq => (Operator.ofSymbol_eq_ok_iff.1 hsymbol).1 (Lexeme.operator.inj heq)

theorem scanBracket_ne_operator {operandDue : Bool} {c : Char} {cs rest : List Char}
    {t : Lexeme} (h : scanBracket operandDue c cs = .ok (t, rest)) (op : Operator) :
    t ≠ .operator op := by
  obtain ⟨n, -, rfl, -⟩ := scanBracket_eq_ok_iff.1 h
  unfold bracketed
  split <;> exact Lexeme.noConfusion

theorem scanWord_ne_operator (cs : List Char) (op : Operator) :
    (scanWord cs).1 ≠ .operator op := by
  unfold scanWord
  dsimp only
  split
  · exact Lexeme.noConfusion
  · split <;> exact Lexeme.noConfusion

theorem readAs_ne_operator {α : Type} {build : α → Lexeme}
    {r : Except Fault (α × List Char)} {t : Lexeme} {rest : List Char}
    (h : readAs build r = .ok (t, rest)) {op : Operator} (hbuild : ∀ a, build a ≠ .operator op) :
    t ≠ .operator op := by
  obtain ⟨a, -, rfl⟩ := readAs_eq_ok_iff.1 h
  exact hbuild a

/-- Whether a `-` negates depends on its place, so the scanner never says that it does. -/
theorem scanOne_ne_negate {operandDue : Bool} {c : Char} {cs rest : List Char} {t : Lexeme}
    (h : scanOne operandDue c cs = .ok (t, rest)) : t ≠ .operator .negate := by
  obtain ⟨reader, -, hread⟩ := exists_reader operandDue c
  rw [hread] at h
  cases reader with
  | bracket => exact scanBracket_ne_operator h .negate
  | pattern | text | number => exact readAs_ne_operator h fun _ => Lexeme.noConfusion
  | openParen | closeParen | comma =>
      cases h
      exact Lexeme.noConfusion
  | word =>
      have hword := scanWord_ne_operator (c :: cs) .negate
      rwa [Except.ok.inj h] at hword
  | capture =>
      obtain ⟨-, rfl, -⟩ := scanCapture_eq_ok_iff.1 h
      exact Lexeme.noConfusion
  | operator => exact scanOperator_ne_negate h

theorem negate_notMem_scanFrom (operandDue : Bool) (cs : List Char) {ts : List Lexeme}
    (h : scanFrom operandDue cs = .ok ts) : .operator .negate ∉ ts := by
  fun_induction scanFrom operandDue cs generalizing ts with
  | case1 => cases h; exact List.not_mem_nil
  | case2 => cases h
  | case3 operandDue cs c rest hs t rest' hone ih =>
      obtain ⟨us, hus, rfl⟩ := Outcome.map_eq_ok_iff.1 h
      intro hmem
      rcases List.mem_cons.1 hmem with heq | hmem
      · exact scanOne_ne_negate hone heq.symm
      · exact ih hus hmem

/-- Negation has no symbol of its own, so no lexeme of a text is one. -/
theorem negate_notMem_scan {source : String} {ts : List Lexeme}
    (h : scan source = .ok ts) : .operator .negate ∉ ts :=
  negate_notMem_scanFrom true source.toList h

end Lexeme

/-! ## Whole formulas -/

theorem Conversion.convertLexemes_eq_map_ofLexemes (arity? : String → Option Nat)
    (selector : String → Except Fault Phrase) {ts : List Lexeme}
    (hts : .operator .negate ∉ ts) :
    Conversion.convertLexemes arity? (fun raw => (selector raw).map Phrase.code) ts
      = (Phrase.ofLexemes arity? selector ts).map Phrase.code := by
  unfold Conversion.convertLexemes Phrase.ofLexemes
  split
  · rfl
  · have h := Parse.foldlM_step_state arity? selector hts {}
    have hstart : Parse.state {} = {} := rfl
    rw [hstart] at h
    rw [h]
    cases ts.foldlM (Parse.step arity? selector) {} with
    | error e => rfl
    | ok s => exact Parse.finish_state s

theorem Conversion.convertSelector_eq_map_ofSelector (arity? : String → Option Nat)
    (limit budget : Nat) :
    Conversion.convertSelector arity? limit budget
      = fun raw => (Phrase.ofSelector arity? limit budget raw).map Phrase.code := by
  induction budget with
  | zero => rfl
  | succ budget ih =>
      funext raw
      rw [Conversion.convertSelector, Phrase.ofSelector, ih]
      cases h : Lexeme.scan raw with
      | error e => rfl
      | ok ts => exact convertLexemes_eq_map_ofLexemes arity? _ (Lexeme.negate_notMem_scan h)

/-- Conversion gives the code of the derivation tree, or the fault of the parse. -/
theorem Code.ofFormula_eq_map_ofFormula (arity? : String → Option Nat) (limit : Nat)
    (source : String) :
    Code.ofFormula arity? limit source
      = (Phrase.ofFormula arity? limit source).map Phrase.code := by
  unfold Code.ofFormula Phrase.ofFormula
  rw [Conversion.convertSelector_eq_map_ofSelector]
  cases h : Lexeme.scan source with
  | error e => rfl
  | ok ts =>
      exact Conversion.convertLexemes_eq_map_ofLexemes arity? _ (Lexeme.negate_notMem_scan h)

end Reckon
