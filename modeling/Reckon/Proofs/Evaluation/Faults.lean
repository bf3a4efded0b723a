/-
# Reckon.Proofs.Evaluation.Faults — what can go wrong in an evaluation

Code is *intact* in a scope if it is that of a tree all of whose calls are of functions that the
scope knows. A scope is intact if the bodies of its functions are, and read nothing but their
parameters. Evaluating intact code in an intact scope fails for reasons that lie in the values or
in the limit, or because a name that the code itself reads has no value: an operator never lacks
an operand, every call finds its function, and every body finds its parameters.

A call may find another function than when the code was converted, with another number of
parameters; that is a fault of its own.
-/
import Reckon.Proofs.Code.Parts
import Reckon.Proofs.Evaluation.Run
import Reckon.Proofs.Expression.Evaluation
import Reckon.Proofs.Outcome

namespace Reckon

open Outcome (Raises raises_ok raises_error)

/-! ## What runs raise -/

namespace Run

variable {α β : Type} {allowed wider : Fault → Prop}

/-- If the run fails, whatever the captures are, then with one of the faults allowed. -/
def Raises (allowed : Fault → Prop) (x : Run α) : Prop :=
  ∀ captures, Outcome.Raises allowed (x.run captures).1

theorem raises_pure (a : α) : Raises allowed (pure a) :=
  fun _ => raises_ok a

theorem raises_throw {e : Fault} (h : allowed e) : Raises allowed (throw e : Run α) :=
  fun _ => raises_error h

theorem raises_lift {x : Except Fault α} (h : Outcome.Raises allowed x) :
    Raises allowed (Machine.lift x) :=
  fun _ => h

theorem Raises.mono {x : Run α} (hx : Raises allowed x) (h : ∀ e, allowed e → wider e) :
    Raises wider x :=
  fun captures => (hx captures).mono h

theorem Raises.bind {x : Run α} {f : α → Run β} (hx : Raises allowed x)
    (hf : ∀ a, Raises allowed (f a)) : Raises allowed (x >>= f) := by
  intro captures
  rcases hrun : x.run captures with ⟨e | a, left⟩
  · have hfirst := hx captures
    rw [hrun] at hfirst
    rw [run_bind_of_error hrun]
    exact raises_error (hfirst e rfl)
  · rw [run_bind_of_ok hrun]
    exact hf a left

end Run

/-! ## Operators and calls -/

/-- Faults of the values that are computed with. -/
def Fault.isOfValues : Fault → Bool
  | divisionByZero | invalidPattern _ _ | invalidSelector _ _ | invalidJson _ | typeMismatch _ _
  | hostFunction _ _ => true
  | _ => false

/-- Faults of the values that are computed with, and of the limit. -/
def Fault.isOfEvaluation : Fault → Bool
  | divisionByZero | invalidPattern _ _ | invalidSelector _ _ | invalidJson _ | typeMismatch _ _
  | hostFunction _ _ | arity _ _ _ | recursionLimit _ => true
  | _ => false

theorem Fault.isOfEvaluation_of_isOfValues {e : Fault} (h : e.isOfValues = true) :
    e.isOfEvaluation = true := by
  cases e <;> first | rfl | cases h

/-- The result is a value or a fault of the values. -/
abbrev Outcome.Proper {α : Type} (x : Except Fault α) : Prop :=
  Raises (fun e => e.isOfValues = true) x

/-- The run ends in a value or a fault of the values. -/
abbrev Run.Proper {α : Type} (x : Run α) : Prop :=
  x.Raises fun e => e.isOfValues = true

open Outcome (Proper)

namespace Value

theorem operand_proper (operator : String) (v : Value) : Proper (v.operand operator) := by
  rw [operand]
  split
  · exact raises_ok _
  · exact raises_error rfl

theorem operands_proper (operator : String) (a b : Value) : Proper (operands operator a b) := by
  apply (operand_proper operator a).bind
  intro x _
  exact (operand_proper operator b).bind fun y _ => raises_ok _

theorem add_proper (a b : Value) : Proper (a.add b) := by
  rw [add]
  split
  · exact raises_ok _
  · exact (operands_proper "+" a b).bind fun _ _ => raises_ok _

theorem subtract_proper (a b : Value) : Proper (a.subtract b) :=
  (operands_proper "-" a b).bind fun _ _ => raises_ok _

theorem multiply_proper (a b : Value) : Proper (a.multiply b) :=
  (operands_proper "*" a b).bind fun _ _ => raises_ok _

theorem divide_proper (a b : Value) : Proper (a.divide b) := by
  apply (operands_proper "/" a b).bind
  rintro ⟨x, y⟩ -
  show Proper (if y == 0.0 then .error .divisionByZero else .ok (number (x / y)))
  split
  · exact raises_error rfl
  · exact raises_ok _

theorem modulo_proper (a b : Value) : Proper (a.modulo b) := by
  apply (operands_proper "%" a b).bind
  rintro ⟨x, y⟩ -
  show Proper (if Number.toInt64 y = 0 then .error .divisionByZero
    else .ok (number (Number.ofInt64 (Number.toInt64 x % Number.toInt64 y))))
  split
  · exact raises_error rfl
  · exact raises_ok _

theorem power_proper (a b : Value) : Proper (a.power b) :=
  (operands_proper "^" a b).bind fun _ _ => raises_ok _

theorem compare_proper (symbol : String) (a b : Value) : Proper (compare symbol a b) := by
  rw [compare]
  split
  · exact raises_error rfl
  · split
    · exact raises_error rfl
    · split
      · exact raises_ok _
      · exact raises_ok _

theorem index_proper (target selector : Value) : Proper (target.index selector) := by
  cases target with
  | array items => exact raises_ok _
  | object members => exact raises_ok _
  | _ => exact raises_error rfl

end Value

namespace Machine

theorem ordered_proper (op : Operator) (accepts : Ordering → Bool) (a b : Value) :
    Proper (ordered op accepts a b) :=
  (Value.compare_proper op.symbol a b).bind fun _ _ => raises_ok _

theorem matchPattern_proper (subject pattern : Value) : (matchPattern subject pattern).Proper := by
  intro captures
  rw [matchPattern_run, matchOutcome]
  dsimp only
  split
  · exact raises_error rfl
  · split
    · exact raises_error rfl
    · split
      · exact raises_ok _
      · exact raises_ok _

theorem unary_proper (op : Operator) (v : Value) : (unary op v).Proper := by
  cases op with
  | negate => exact Run.raises_lift (Value.multiply_proper _ _)
  | _ => exact Run.raises_pure _

/-- A binary operator is none of those that stand before their operand. -/
theorem binary_proper {op : Operator} (isBinary : op.isPrefix = false) (a b : Value) :
    (binary op a b).Proper := by
  cases op with
  | add => exact Run.raises_lift (Value.add_proper a b)
  | subtract => exact Run.raises_lift (Value.subtract_proper a b)
  | multiply => exact Run.raises_lift (Value.multiply_proper a b)
  | divide => exact Run.raises_lift (Value.divide_proper a b)
  | modulo => exact Run.raises_lift (Value.modulo_proper a b)
  | power => exact Run.raises_lift (Value.power_proper a b)
  | greater => exact Run.raises_lift (ordered_proper _ _ a b)
  | less => exact Run.raises_lift (ordered_proper _ _ a b)
  | greaterEqual => exact Run.raises_lift (ordered_proper _ _ a b)
  | lessEqual => exact Run.raises_lift (ordered_proper _ _ a b)
  | equal => exact Run.raises_pure _
  | notEqual => exact Run.raises_pure _
  | and => exact Run.raises_pure _
  | or => exact Run.raises_pure _
  | matching => exact matchPattern_proper a b
  | negate => cases isBinary
  | not => cases isBinary

/-- All names that are taken by built-in functions are names of functions. -/
theorem isSome_named? {name : String} (h : Builtin.isName name = true) :
    (Builtin.named? name).isSome = true := by
  have hall : ∀ p ∈ Builtin.table, (Builtin.named? p.1).isSome = true := by decide +kernel
  obtain ⟨f, hf⟩ := Option.isSome_iff_exists.1 h
  obtain ⟨before, after, htable, -⟩ := List.lookup_eq_some_iff.1 hf
  apply hall (name, f)
  rw [htable]
  exact List.mem_append_right _ List.mem_cons_self

theorem callBuiltin_proper {name : String} (h : Builtin.isName name = true) (args : List Value) :
    Proper (callBuiltin name args) := by
  apply (Value.operand_proper name _).bind
  intro x _
  obtain ⟨f, hf⟩ := Option.isSome_iff_exists.1 (isSome_named? h)
  rw [Builtin.evalNamed?, hf]
  exact raises_ok _

theorem callHost_proper (name : String) (f : HostFunction) (args : List Value) :
    Proper (callHost name f args) := by
  rw [callHost]
  split
  · exact raises_ok _
  · exact raises_error rfl

end Machine

/-! ## Intact code -/

/-- Code is that of a tree, and the scope knows the functions that it calls. -/
def Code.Intact (scope : Scope) (code : Code) : Prop :=
  (∃ e : Expression, e.postorder = code) ∧
    ∀ name, code.Calls name → (scope.resolve? name).isSome = true

/-- The body of a function reads nothing but the parameters. -/
def UserFunction.Closed (f : UserFunction) : Prop :=
  ∀ name, f.body.Reads name → name ∈ f.parameters

/-- The bodies of all functions of the scope are intact, and read nothing but parameters. -/
def Scope.Intact (scope : Scope) : Prop :=
  ∀ name f, scope.functions.get? name = some f → f.body.Intact scope ∧ f.Closed

theorem Scope.functions_of_resolve? {scope : Scope} {name : String} {f : UserFunction}
    (h : scope.resolve? name = some (.user f)) : scope.functions.get? name = some f := by
  rw [resolve?] at h
  split at h
  · cases h
  · split at h
    · rename_i hf
      cases h
      exact hf
    · rw [Option.map_eq_some_iff] at h
      obtain ⟨g, -, hg⟩ := h
      cases hg

theorem Scope.isName_of_resolve? {scope : Scope} {name : String}
    (h : scope.resolve? name = some .builtin) : Builtin.isName name = true := by
  rw [resolve?] at h
  split at h
  · rename_i hname
    exact hname
  · split at h
    · cases h
    · rw [Option.map_eq_some_iff] at h
      obtain ⟨g, -, hg⟩ := h
      cases hg

/-! ## Evaluations -/

/-- Faults that evaluating intact code can raise: those of values, and names that the code reads
and the frame does not bind. -/
def Fault.Expected (frame : Frame) (code : Code) (e : Fault) : Prop :=
  e.isOfEvaluation = true ∨
    ∃ name, e = .undefinedVariable name ∧ code.Reads name ∧ frame.get? name = none

theorem Fault.Expected.mono {frame : Frame} {code wider : Code} {e : Fault}
    (he : e.Expected frame code) (h : ∀ i, i ∈ Code.parts code → i ∈ Code.parts wider) :
    e.Expected frame wider := by
  rcases he with he | ⟨name, rfl, hreads, hname⟩
  · exact .inl he
  · exact .inr ⟨name, rfl, h _ hreads, hname⟩

/-- In a body that reads nothing but parameters no name lacks a value. -/
theorem UserFunction.Closed.isOfEvaluation {f : UserFunction} (hf : f.Closed) {args : List Value}
    (hargs : args.length = f.arity) {e : Fault} (he : e.Expected (f.frame args) f.body) :
    e.isOfEvaluation = true := by
  rcases he with he | ⟨name, rfl, hreads, hname⟩
  · exact he
  · have hbound := f.isSome_get?_frame args (hf name hreads) hargs
    rw [hname] at hbound
    cases hbound

theorem Fault.Expected.of_isOfValues {frame : Frame} {code : Code} {e : Fault}
    (he : e.isOfValues = true) : e.Expected frame code :=
  .inl (isOfEvaluation_of_isOfValues he)

theorem Machine.load_raises (scope : Scope) (frame : Frame) (o : Operand) :
    (load scope frame o).Raises (Fault.Expected frame [.operand o]) := by
  intro captures
  rw [load_run]
  show Outcome.Raises _ (loadOutcome scope frame captures o)
  cases o with
  | identifier name =>
      rw [loadOutcome]
      split
      · exact raises_ok _
      · rename_i hname
        split
        · exact raises_ok _
        · exact raises_error (.inr ⟨name, rfl, List.mem_singleton.2 rfl, hname⟩)
  | json raw =>
      rw [loadOutcome]
      split
      · exact raises_ok _
      · exact raises_error (.inl rfl)
  | _ => exact raises_ok _

namespace Expression

variable {scope : Scope} {limit depth : Nat} {frame : Frame}

theorem evaluateAll_bind_raises {α : Type} {allowed : Fault → Prop} {es : List Expression}
    (each : ∀ e ∈ es, (e.evaluate scope limit depth frame).Raises allowed)
    {f : List Value → Run α} (hf : ∀ vs, vs.length = es.length → (f vs).Raises allowed) :
    (evaluateAll scope limit depth frame es >>= f).Raises allowed := by
  induction es generalizing f with
  | nil =>
      rw [evaluateAll, pure_bind]
      exact hf [] rfl
  | cons e es ih =>
      simp only [evaluateAll, bind_assoc, pure_bind]
      apply (each e List.mem_cons_self).bind
      intro v
      apply ih fun e' he' => each e' (List.mem_cons_of_mem _ he')
      intro vs hvs
      apply hf (v :: vs)
      rw [List.length_cons, List.length_cons, hvs]

/-- A part of a tree raises what the tree may raise. -/
theorem raises_of_part {e : Expression} {code : Code}
    (hsub : ∀ i, i ∈ Code.parts e.postorder → i ∈ Code.parts code)
    (he : (∀ name, Code.Calls e.postorder name → (scope.resolve? name).isSome = true) →
      (e.evaluate scope limit depth frame).Raises (Fault.Expected frame e.postorder))
    (hcode : ∀ name, Code.Calls code name → (scope.resolve? name).isSome = true) :
    (e.evaluate scope limit depth frame).Raises (Fault.Expected frame code) := by
  refine (he ?_).mono fun _ h => Fault.Expected.mono h hsub
  rintro name ⟨count, hmem⟩
  exact hcode name ⟨count, hsub _ hmem⟩

/-- The body of a function that is called has a tree, and no name in it lacks a value. -/
theorem exists_body_raises (hscope : scope.Intact)
    (hnext : ∀ frame (e : Expression), Code.Intact scope e.postorder →
      (e.evaluate scope limit (depth + 1) frame).Raises (Fault.Expected frame e.postorder))
    {name : String} {f : UserFunction} (hf : scope.functions.get? name = some f)
    {args : List Value} (hargs : args.length = f.arity) :
    ∃ body, f.body.tree? = some body ∧
      (body.evaluate scope limit (depth + 1) (f.frame args)).Raises
        fun e => e.isOfEvaluation = true := by
  obtain ⟨⟨⟨body, hbody⟩, hcalls⟩, hclosed⟩ := hscope name f hf
  refine ⟨body, Code.tree?_eq_some_iff.2 hbody, ?_⟩
  refine (hnext (f.frame args) body ⟨⟨body, rfl⟩, ?_⟩).mono fun e he => ?_
  · rw [hbody]
    exact hcalls
  · rw [hbody] at he
    exact hclosed.isOfEvaluation hargs he

/-- If the next level raises only expected faults, so does this one. -/
theorem evaluate_raises_of_next (hscope : scope.Intact)
    (hnext : depth < limit → ∀ frame (e : Expression), Code.Intact scope e.postorder →
      (e.evaluate scope limit (depth + 1) frame).Raises (Fault.Expected frame e.postorder))
    {e : Expression}
    (he : ∀ name, Code.Calls e.postorder name → (scope.resolve? name).isSome = true) :
    (e.evaluate scope limit depth frame).Raises (Fault.Expected frame e.postorder) := by
  induction e with
  | operand o =>
      rw [evaluate]
      exact Machine.load_raises scope frame o
  | selector body _ =>
      rw [evaluate]
      split
      · rename_i h
        have hbody : Code.Intact scope body.postorder :=
          ⟨⟨body, rfl⟩, fun name hcalls => he name (calls_selector.2 hcalls)⟩
        refine (hnext h frame body hbody).mono fun _ hexpected => ?_
        exact hexpected.mono fun i hi => mem_parts_selector.2 (.inr hi)
      · exact Run.raises_throw (.inl rfl)
  | prefixed op isPrefix e ih =>
      rw [evaluate]
      have hfirst := raises_of_part (fun i hi => mem_parts_prefixed.2 (.inl hi)) ih he
      exact hfirst.bind fun v => (Machine.unary_proper op v).mono fun _ => .of_isOfValues
  | binary op isBinary a b iha ihb =>
      rw [evaluate]
      have hfirst := raises_of_part (fun i hi => mem_parts_binary.2 (.inl (.inl hi))) iha he
      have hsecond := raises_of_part (fun i hi => mem_parts_binary.2 (.inl (.inr hi))) ihb he
      apply hfirst.bind
      intro x
      apply hsecond.bind
      intro y
      exact (Machine.binary_proper isBinary x y).mono fun _ => .of_isOfValues
  | index target key iht ihk =>
      rw [evaluate]
      have hfirst := raises_of_part (fun i hi => mem_parts_index.2 (.inl (.inl hi))) iht he
      have hsecond := raises_of_part (fun i hi => mem_parts_index.2 (.inl (.inr hi))) ihk he
      apply hfirst.bind
      intro t
      apply hsecond.bind
      intro k
      exact (Run.raises_lift (Value.index_proper t k)).mono fun _ => .of_isOfValues
  | call name args ih =>
      rw [evaluate]
      have hname : (scope.resolve? name).isSome = true := he name (calls_call.2 (.inr rfl))
      obtain ⟨callee, hcallee⟩ := Option.isSome_iff_exists.1 hname
      have heach : ∀ e ∈ args, (e.evaluate scope limit depth frame).Raises
          (Fault.Expected frame (Expression.call name args).postorder) := by
        intro e hmem
        exact raises_of_part (fun i hi => mem_parts_call.2 (.inl ⟨e, hmem, hi⟩)) (ih e hmem) he
      apply evaluateAll_bind_raises heach
      intro vs hvs
      -- the function is there, but it may have another number of parameters by now
      rw [hcallee]
      dsimp only
      split
      · exact Run.raises_throw (.inl rfl)
      · rename_i harity
        cases callee with
        | builtin =>
            exact (Run.raises_lift (Machine.callBuiltin_proper
              (Scope.isName_of_resolve? hcallee) vs)).mono fun _ => .of_isOfValues
        | host f =>
            exact (Run.raises_lift (Machine.callHost_proper name f vs)).mono
              fun _ => .of_isOfValues
        | user f =>
            have hargs : vs.length = f.arity := hvs.trans (Decidable.not_not.1 harity)
            dsimp only
            split
            · rename_i h
              obtain ⟨body, htree, hbody⟩ :=
                exists_body_raises hscope (hnext h) (Scope.functions_of_resolve? hcallee) hargs
              rw [htree]
              exact hbody.mono fun _ => .inl
            · exact Run.raises_throw (.inl rfl)

/-- Evaluating an intact tree in an intact scope raises only expected faults. -/
theorem evaluate_raises (hscope : scope.Intact) {e : Expression}
    (he : Code.Intact scope e.postorder) (depth : Nat) (frame : Frame) :
    (e.evaluate scope limit depth frame).Raises (Fault.Expected frame e.postorder) := by
  -- induction on the levels that are left
  induction hlevels : limit - depth generalizing depth frame e with
  | zero => exact evaluate_raises_of_next hscope (fun h => absurd h (by omega)) he.2
  | succ levels ih =>
      refine evaluate_raises_of_next hscope (fun _ frame e he' => ?_) he.2
      exact ih he' (depth + 1) frame (by omega)

end Expression

namespace Code

variable {scope : Scope}

/-- Running intact code in an intact scope raises only expected faults. -/
theorem run_raises {code : Code} (hscope : scope.Intact) (hcode : code.Intact scope)
    (limit depth : Nat) (frame : Frame) :
    (code.run scope limit depth frame).Raises (Fault.Expected frame code) := by
  obtain ⟨e, rfl⟩ := hcode.1
  rw [Expression.run_postorder]
  exact Expression.evaluate_raises hscope hcode depth frame

/-- No expected fault is a defect. -/
theorem run_clean {code : Code} (hscope : scope.Intact) (hcode : code.Intact scope)
    (limit depth : Nat) (frame : Frame) :
    (code.run scope limit depth frame).Raises fun e => e.isDefect = false := by
  refine (run_raises hscope hcode limit depth frame).mono fun e he => ?_
  rcases he with he | ⟨name, rfl, -⟩
  · cases e <;> first | rfl | cases he
  · rfl

end Code

end Reckon
