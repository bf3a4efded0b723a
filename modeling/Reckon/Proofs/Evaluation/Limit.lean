/-
# Reckon.Proofs.Evaluation.Limit — the limit of nesting is exact

Nothing that is run is skipped, so a run that ends in a value has gone down all levels of its code,
and the limit allowed it: the depth at the start and the height of the code together stay within
the limit. A run that the limit stops was about to go down one level too many, which the code must
have. Both are shown level by level, by induction on the levels that are left.

A call of a recursive function therefore never ends in a value, whatever conditions guard it. And
selectors that the conversion of a formula allows are allowed by its evaluation.
-/
import Reckon.Proofs.Code.Height
import Reckon.Proofs.Conversion.Grammar

namespace Reckon

/-! ## Runs that end in a value -/

namespace Run

variable {α β : Type}

/-- From some captures the run ends in a value. -/
def Returns (x : Run α) : Prop :=
  ∃ captures a left, x.run captures = (.ok a, left)

theorem not_returns_throw (e : Fault) : ¬ (throw e : Run α).Returns := by
  rintro ⟨captures, a, left, h⟩
  cases h

theorem returns_of_bind {x : Run α} {f : α → Run β} (h : (x >>= f).Returns) :
    x.Returns ∧ ∃ a, (f a).Returns := by
  obtain ⟨captures, b, left, h⟩ := h
  rcases hrun : x.run captures with ⟨e | a, middle⟩
  · rw [run_bind_of_error hrun] at h
    cases h
  · rw [run_bind_of_ok hrun] at h
    exact ⟨⟨captures, a, middle, hrun⟩, a, middle, b, left, h⟩

end Run

namespace Machine

variable {scope : Scope} {inside : Frame → Code → Run Value} {frame : Frame}

/-- An instruction that ends well has run the code in it to a value. -/
theorem inside_returns_of_step {i : Instruction} {stack : List Value}
    (h : (step scope inside frame stack i).Returns) {body : Code}
    (hbody : i.inner? scope = some body) : ∃ frame, (inside frame body).Returns := by
  cases i with
  | selector contents =>
      cases hbody
      exact ⟨frame, (Run.returns_of_bind h).1⟩
  | call name count =>
      obtain ⟨f, hf, rfl⟩ := Instruction.inner?_call.1 hbody
      rw [step, callStep, hf] at h
      dsimp only at h
      split at h
      · exact absurd h (Run.not_returns_throw _)
      · obtain ⟨-, ⟨args, rest⟩, h⟩ := Run.returns_of_bind h
        exact ⟨_, (Run.returns_of_bind h).1⟩
  | operand o => cases hbody
  | operator op => cases hbody
  | index => cases hbody

theorem step_returns_of_foldlM {code : Code} {stack : List Value}
    (h : (code.foldlM (step scope inside frame) stack).Returns) {i : Instruction} (hi : i ∈ code) :
    ∃ stack, (step scope inside frame stack i).Returns := by
  induction code generalizing stack with
  | nil => cases hi
  | cons j code ih =>
      rw [List.foldlM_cons] at h
      obtain ⟨hfirst, stack', hrest⟩ := Run.returns_of_bind h
      rcases List.mem_cons.1 hi with rfl | hi
      · exact ⟨stack, hfirst⟩
      · exact ih hrest hi

theorem inside_returns_of_runWith {code : Code} (h : (runWith scope inside frame code).Returns)
    {i : Instruction} (hi : i ∈ code) {body : Code} (hbody : i.inner? scope = some body) :
    ∃ frame, (inside frame body).Returns := by
  obtain ⟨stack, hstep⟩ := step_returns_of_foldlM (Run.returns_of_bind h).1 hi
  exact inside_returns_of_step hstep hbody

/-- Code that runs to a value has no more levels than were left. -/
theorem not_nests_of_returns {limit levels : Nat} {code : Code}
    (h : (runWithin scope limit levels frame code).Returns) :
    code.nests scope (levels + 1) = false := by
  induction levels generalizing frame code with
  | zero =>
      refine Bool.eq_false_iff.2 fun hnests => ?_
      obtain ⟨i, hi, body, hbody, -⟩ := Code.nests_succ_iff.1 hnests
      obtain ⟨_, hrun⟩ := inside_returns_of_runWith h hi hbody
      exact Run.not_returns_throw _ hrun
  | succ levels ih =>
      refine Bool.eq_false_iff.2 fun hnests => ?_
      obtain ⟨i, hi, body, hbody, hnests⟩ := Code.nests_succ_iff.1 hnests
      obtain ⟨_, hrun⟩ := inside_returns_of_runWith h hi hbody
      exact Bool.eq_false_iff.1 (ih hrun) hnests

end Machine

/-! ## Runs that the limit stops -/

/-- If the fault is one of the limit, then the condition holds. -/
def Fault.LimitOnlyIf (P : Prop) (e : Fault) : Prop :=
  ∀ limit, e = .recursionLimit limit → P

namespace Fault

variable {P Q : Prop} {e : Fault}

theorem LimitOnlyIf.mono (he : e.LimitOnlyIf P) (h : P → Q) : e.LimitOnlyIf Q :=
  fun limit hlimit => h (he limit hlimit)

theorem limitOnlyIf_of_isOfValues (h : e.isOfValues = true) : e.LimitOnlyIf P := by
  rintro limit rfl
  cases h

end Fault

namespace Machine

variable {scope : Scope} {inside : Frame → Code → Run Value} {frame : Frame}
variable {P : Code → Prop}

theorem load_limit {Q : Prop} (o : Operand) :
    (load scope frame o).Raises fun e => e.LimitOnlyIf Q := by
  intro captures
  rw [load_run]
  show Outcome.Raises _ (loadOutcome scope frame captures o)
  rw [loadOutcome.eq_def]
  split
  any_goals exact Outcome.raises_ok _
  · split
    · exact Outcome.raises_ok _
    · exact Outcome.raises_error (Fault.limitOnlyIf_of_isOfValues rfl)
  · split
    · exact Outcome.raises_ok _
    · split
      · exact Outcome.raises_ok _
      · exact Outcome.raises_error nofun

/-- A run that the limit does not stop unless a condition holds, followed by putting its value on
the stack. -/
theorem push_limit {Q : Prop} {x : Run Value} (hx : x.Raises fun e => e.LimitOnlyIf Q)
    (stack : List Value) : (x >>= fun v => pure (v :: stack)).Raises fun e => e.LimitOnlyIf Q :=
  hx.bind fun _ => Run.raises_pure _

theorem push_limit_of_proper {Q : Prop} {x : Run Value} (hx : x.Proper) (stack : List Value) :
    (x >>= fun v => pure (v :: stack)).Raises fun e => e.LimitOnlyIf Q :=
  push_limit (hx.mono fun _ => Fault.limitOnlyIf_of_isOfValues) stack

theorem callStep_limit {Q : Prop} {name : String} (hbody : ∀ f frame,
      scope.resolve? name = some (.user f) → (inside frame f.body).Raises fun e => e.LimitOnlyIf Q)
    (count : Nat) (stack : List Value) :
    (callStep scope inside name count stack).Raises fun e => e.LimitOnlyIf Q := by
  rw [callStep]
  cases hcallee : scope.resolve? name with
  | none => exact Run.raises_throw (by rintro limit ⟨⟩)
  | some callee =>
      dsimp only
      split
      · exact Run.raises_throw (by rintro limit ⟨⟩)
      · cases htake : takeArguments count stack with
        | error e =>
            rw [takeArguments] at htake
            split at htake
            · cases htake
              exact Run.raises_throw (by rintro limit ⟨⟩)
            · cases htake
        | ok taken =>
            obtain ⟨args, rest⟩ := taken
            cases callee with
            | builtin =>
                have hname := Scope.isName_of_resolve? hcallee
                exact push_limit_of_proper (Run.raises_lift (callBuiltin_proper hname args)) rest
            | host f =>
                exact push_limit_of_proper (Run.raises_lift (callHost_proper name f args)) rest
            | user f => exact push_limit (hbody f _ hcallee) rest

/-- The limit stops an instruction only in the code in it. -/
theorem step_limit
    (hinside : ∀ frame body, (inside frame body).Raises fun e => e.LimitOnlyIf (P body))
    (stack : List Value) (i : Instruction) :
    (step scope inside frame stack i).Raises fun e =>
      e.LimitOnlyIf (∃ body, i.inner? scope = some body ∧ P body) := by
  cases i with
  | operand o => exact push_limit (load_limit o) stack
  | operator op =>
      cases op with
      | negate =>
          cases stack with
          | nil => exact Run.raises_throw nofun
          | cons v stack => exact push_limit_of_proper (unary_proper .negate v) stack
      | not =>
          cases stack with
          | nil => exact Run.raises_throw nofun
          | cons v stack => exact Run.raises_pure _
      | _ =>
          rcases stack with _ | ⟨b, _ | ⟨a, stack⟩⟩
          · exact Run.raises_throw nofun
          · exact Run.raises_throw nofun
          · exact push_limit_of_proper (binary_proper rfl a b) stack
  | selector body =>
      refine push_limit ((hinside frame body).mono fun e he => he.mono fun h => ?_) stack
      exact ⟨body, rfl, h⟩
  | index =>
      rcases stack with _ | ⟨selector, _ | ⟨target, stack⟩⟩
      · exact Run.raises_throw nofun
      · exact Run.raises_throw nofun
      · exact push_limit_of_proper (Run.raises_lift (Value.index_proper target selector)) stack
  | call name count =>
      refine callStep_limit (fun f frame hf => ?_) count stack
      refine (hinside frame f.body).mono fun e he => he.mono fun h => ?_
      exact ⟨f.body, Instruction.inner?_call.2 ⟨f, hf, rfl⟩, h⟩

theorem foldlM_step_limit
    (hinside : ∀ frame body, (inside frame body).Raises fun e => e.LimitOnlyIf (P body))
    (code : Code) (stack : List Value) :
    (code.foldlM (step scope inside frame) stack).Raises fun e =>
      e.LimitOnlyIf (∃ i ∈ code, ∃ body, i.inner? scope = some body ∧ P body) := by
  induction code generalizing stack with
  | nil => exact Run.raises_pure stack
  | cons i code ih =>
      rw [List.foldlM_cons]
      have hfirst : (step scope inside frame stack i).Raises fun e =>
          e.LimitOnlyIf (∃ j ∈ i :: code, ∃ body, j.inner? scope = some body ∧ P body) :=
        (step_limit hinside stack i).mono fun e he => he.mono fun h =>
          ⟨i, List.mem_cons_self, h⟩
      refine hfirst.bind fun stack' => (ih stack').mono fun e he => he.mono ?_
      rintro ⟨j, hj, h⟩
      exact ⟨j, List.mem_cons_of_mem i hj, h⟩

theorem runWith_limit
    (hinside : ∀ frame body, (inside frame body).Raises fun e => e.LimitOnlyIf (P body))
    (code : Code) :
    (runWith scope inside frame code).Raises fun e =>
      e.LimitOnlyIf (∃ i ∈ code, ∃ body, i.inner? scope = some body ∧ P body) := by
  refine (foldlM_step_limit hinside code []).bind fun stack => Run.raises_lift ?_
  rw [result.eq_def]
  split
  · exact Outcome.raises_ok _
  · exact Outcome.raises_error nofun
  · exact Outcome.raises_error nofun

/-- Code that the limit stops has more levels than were left. -/
theorem nests_of_limit (limit levels : Nat) (frame : Frame) (code : Code) :
    (runWithin scope limit levels frame code).Raises fun e =>
      e.LimitOnlyIf (code.nests scope (levels + 1) = true) := by
  induction levels generalizing frame code with
  | zero =>
      refine (runWith_limit (P := fun _ => True)
        (fun _ _ => Run.raises_throw fun _ _ => trivial) code).mono fun e he => he.mono ?_
      rintro ⟨i, hi, body, hbody, -⟩
      exact Code.nests_succ_iff.2 ⟨i, hi, body, hbody, rfl⟩
  | succ levels ih => exact (runWith_limit ih code).mono fun e he => he.mono Code.nests_succ_iff.2

end Machine

/-! ## Converted formulas -/

/-- None of the functions that code calls is defined by a formula. -/
def Code.CallsNoDefined (scope : Scope) (code : Code) : Prop :=
  ∀ name f, code.Calls name → scope.resolve? name ≠ some (.user f)

section

variable {scope : Scope}

theorem Code.CallsNoDefined.of_calls {code part : Code} (h : code.CallsNoDefined scope)
    (hcalls : ∀ name, part.Calls name → code.Calls name) : part.CallsNoDefined scope :=
  fun name f hname => h name f (hcalls name hname)

/-- Appending an instruction without code in it does not make code higher. -/
theorem Code.height_append_le {code : Code} {i : Instruction} {n : ℕ∞}
    (h : code.height scope ≤ n) (hi : i.inner? scope = none) :
    height scope (code ++ [i]) ≤ n := by
  rw [height_append, height_singleton, Instruction.height, hi]
  exact max_le h zero_le

theorem Expression.height_binary_le {op : Operator} {isBinary : op.isPrefix = false}
    {a b : Expression} {n : ℕ∞} (ha : Code.height scope a.postorder ≤ n)
    (hb : Code.height scope b.postorder ≤ n) :
    Code.height scope (binary op isBinary a b).postorder ≤ n := by
  refine Code.height_append_le ?_ rfl
  rw [Code.height_append]
  exact max_le ha hb

theorem Expression.height_postorderAll_le {es : List Expression} {n : ℕ∞}
    (h : ∀ e ∈ es, Code.height scope e.postorder ≤ n) :
    Code.height scope (postorderAll es) ≤ n := by
  induction es with
  | nil =>
      rw [postorderAll, Code.height_nil]
      exact zero_le
  | cons e es ih =>
      rw [postorderAll, Code.height_append]
      exact max_le (h e List.mem_cons_self) (ih fun e' he' => h e' (List.mem_cons_of_mem _ he'))

/-- Where no defined function is called, code nests only as selectors do, which the grammar
bounds. -/
theorem Derives.height_le {arity? : String → Option Nat} {depth : Nat} {n : Nonterminal}
    {ts : List Lexeme} {p : Phrase} (h : Derives arity? depth n ts p)
    (hcalls : p.code.CallsNoDefined scope) : p.code.height scope ≤ depth := by
  induction h with
  | single _ _ ih => exact ih hcalls
  | chain isBinary _ _ _ ihp ihq =>
      exact Expression.height_binary_le
        (ihp (hcalls.of_calls fun _ h => Expression.calls_binary.2 (.inl h)))
        (ihq (hcalls.of_calls fun _ h => Expression.calls_binary.2 (.inr h)))
  | juxtaposed _ _ _ ihp ihq =>
      exact Expression.height_binary_le
        (ihp (hcalls.of_calls fun _ h => Expression.calls_binary.2 (.inl h)))
        (ihq (hcalls.of_calls fun _ h => Expression.calls_binary.2 (.inr h)))
  | raised _ _ ihp ihq =>
      exact Expression.height_binary_le
        (ihp (hcalls.of_calls fun _ h => Expression.calls_binary.2 (.inl h)))
        (ihq (hcalls.of_calls fun _ h => Expression.calls_binary.2 (.inr h)))
  | negation _ ih =>
      have hp := ih (hcalls.of_calls fun _ h => Expression.calls_prefixed.2 h)
      exact Code.height_append_le hp rfl
  | complement _ ih =>
      have hp := ih (hcalls.of_calls fun _ h => Expression.calls_prefixed.2 h)
      exact Code.height_append_le hp rfl
  | @index depth _ _ _ p q _ _ _ ihp ihq =>
      have hp := ihp (hcalls.of_calls fun _ h => Expression.calls_index.2 (.inl h))
      have hq := ihq (hcalls.of_calls fun _ h => Expression.calls_index.2
        (.inr (Expression.calls_selector.2 h)))
      refine Code.height_append_le ?_ rfl
      rw [Code.height_append]
      refine max_le hp ?_
      -- the contents are one level lower than the phrase may be
      have hselector : Code.height scope (Expression.selector q.expression).postorder
          = 1 + q.code.height scope := Code.height_singleton _
      rw [hselector, Nat.cast_add, Nat.cast_one, add_comm]
      gcongr
  | operand _ => exact (Code.height_singleton _).trans_le zero_le
  | group _ ih => exact ih hcalls
  | @call _ name parts _ _ ih =>
      have hname : Instruction.inner? scope
          (.call name (Phrase.expressions (parts.map Prod.snd)).length) = none := by
        refine Option.eq_none_iff_forall_ne_some.2 fun body hbody => ?_
        obtain ⟨f, hf, -⟩ := Instruction.inner?_call.1 hbody
        exact hcalls name f (Expression.calls_call.2 (.inr rfl)) hf
      refine Code.height_append_le (Expression.height_postorderAll_le fun e he => ?_) hname
      have hmem := he
      rw [Phrase.expressions_eq_map, List.map_map] at hmem
      obtain ⟨part, hpart, rfl⟩ := List.mem_map.1 hmem
      exact ih part hpart (hcalls.of_calls fun _ h => Expression.calls_call.2 (.inl ⟨_, he, h⟩))

end

/-! ## The limit -/

namespace Code

variable {env : Environment} {limit depth : Nat} {frame : Frame} {code : Code}

/-- Code that evaluates to a value stays within the limit. -/
theorem height_of_evaluate_ok {v : Value} (h : (code.evaluate env limit depth frame).1 = .ok v) :
    code.height env.scope = 0 ∨ depth + code.height env.scope ≤ limit := by
  have hreturns : (Machine.runWithin env.scope limit (limit - depth) frame code).Returns :=
    ⟨env.captures, v, _, Prod.ext h rfl⟩
  have hnot : ¬ ((limit - depth + 1 : ℕ) : ℕ∞) ≤ code.height env.scope := fun hle =>
    Bool.eq_false_iff.1 (Machine.not_nests_of_returns hreturns) (natCast_le_height_iff.1 hle)
  obtain ⟨k, hk⟩ := ENat.ne_top_iff_exists.1 (ne_top_of_lt (not_le.1 hnot))
  rw [← hk, Nat.cast_le] at hnot
  rw [← hk]
  norm_cast
  omega

/-- Code that the limit stops would have exceeded it. -/
theorem height_of_evaluate_limit {m : Nat}
    (h : (code.evaluate env limit depth frame).1 = .error (.recursionLimit m)) :
    0 < code.height env.scope ∧ limit < depth + code.height env.scope := by
  have hnests : code.nests env.scope (limit - depth + 1) = true :=
    Machine.nests_of_limit limit (limit - depth) frame code env.captures _ h m rfl
  have hle := natCast_le_height_iff.2 hnests
  constructor
  · have hpos : (0 : ℕ∞) < ((limit - depth + 1 : ℕ) : ℕ∞) := mod_cast Nat.succ_pos _
    exact hpos.trans_le hle
  · calc
      (limit : ℕ∞) < ((depth + (limit - depth + 1) : ℕ) : ℕ∞) := Nat.cast_lt.2 (by omega)
      _ = depth + ((limit - depth + 1 : ℕ) : ℕ∞) := Nat.cast_add _ _
      _ ≤ depth + code.height env.scope := by gcongr

/-- The limit is exact and depends on the nesting of the code alone. Code that evaluates to a value
has no levels or stays within the limit with them, and code that the limit stops has more. So
nothing that reaches a recursive function evaluates to a value; and what has been converted under
the limit, and calls no function that a formula defines, is never stopped by it. -/
theorem evaluate_limit_exact (env : Environment) (limit depth : Nat) (frame : Frame)
    (code : Code) :
    code.height env.scope = (code.map (Instruction.height env.scope)).foldr max 0 ∧
    (code.height env.scope = ⊤ ↔
      ∃ name, code.Reaches env.scope name ∧ env.scope.Recursive name) ∧
    (∀ v, (code.evaluate env limit depth frame).1 = .ok v →
      code.height env.scope = 0 ∨ depth + code.height env.scope ≤ limit) ∧
    (∀ m, (code.evaluate env limit depth frame).1 = .error (.recursionLimit m) →
      0 < code.height env.scope ∧ limit < depth + code.height env.scope) ∧
    (∀ name, code.Reaches env.scope name → env.scope.Recursive name →
      ∀ v, (code.evaluate env limit depth frame).1 ≠ .ok v) ∧
    (∀ arity? source, ofFormula arity? limit source = .ok code → code.CallsNoDefined env.scope →
      ∀ m, (code.evaluate env limit 0 frame).1 ≠ .error (.recursionLimit m)) := by
  refine ⟨height_eq_foldr code, height_eq_top_iff, fun v => height_of_evaluate_ok,
    fun m => height_of_evaluate_limit, fun name hreaches hname v hv => ?_,
    fun arity? source hcode hcalls m hm => ?_⟩
  · have htop := height_eq_top_of_recursive hreaches hname
    rcases height_of_evaluate_ok hv with hzero | hle
    · rw [htop] at hzero
      exact ENat.top_ne_zero hzero
    · rw [htop, add_top] at hle
      exact not_lt.2 hle (ENat.natCast_lt_top limit)
  · obtain ⟨ts, p, -, hp, rfl⟩ := ofFormula_eq_ok_iff.1 hcode
    have hlt := (height_of_evaluate_limit hm).2
    rw [Nat.cast_zero, zero_add] at hlt
    exact not_lt.2 (hp.height_le hcalls) hlt

-- the condition of `if` does not keep `f(n) = if(n, f(n - 1), 0)` from calling itself
example :
    let body : Code := [.operand (.identifier "n"), .operand (.identifier "n"),
      .operand (.number 1.0), .operator .subtract, .call "f" 1, .operand (.number 0.0),
      .call "if" 3]
    let scope := { Scope.initial with functions := Table.empty.insert "f" ⟨["n"], body⟩ }
    (evaluate { scope } 3 0 .empty [.operand (.number 0.0), .call "f" 1]).1
      = .error (.recursionLimit 3) := by
  rfl

end Code

end Reckon
