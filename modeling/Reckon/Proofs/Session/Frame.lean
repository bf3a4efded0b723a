/-
# Reckon.Proofs.Session.Frame — what a statement can change

A statement changes the environment only as its kind allows. An expression changes the captures.
An assignment binds its variable, and its body changes the captures, which stay changed if it
fails. A definition that succeeds changes the entry of its function and nothing else, captures
included; one that fails changes nothing.

An assignment stores its value after it has been computed, and this cannot fail: what stands to
the left of the equals sign is a name (`Statement.isName_of_classify_assignment`), and that it is
no constant has been seen before.
-/
import Reckon.Proofs.Evaluation.Locality
import Reckon.Proofs.Session.Integrity
import Reckon.Proofs.Statement.Heads

namespace Reckon

/-! ## Changes -/

namespace Environment

/-- At most captures have changed: everything is bound as before, and all names but those of
captures stand for what they stood for. -/
structure Keeps (before after : Environment) : Prop where
  scope : after.scope = before.scope
  others : ∀ name, ¬ IsCaptureName name → after.value? name = before.value? name

/-- One variable has been bound, and besides at most captures have changed. -/
structure Binds (name : String) (v : Value) (before after : Environment) : Prop where
  bindings : after.scope.bindings = before.scope.bindings.insert name v
  functions : after.scope.functions = before.scope.functions
  hosts : after.scope.hosts = before.scope.hosts
  value : after.value? name = some v
  others : ∀ other, other ≠ name → ¬ IsCaptureName other →
    after.value? other = before.value? other

/-- One function has been defined, and nothing else has changed. -/
structure Defines (name : String) (f : UserFunction) (before after : Environment) : Prop where
  functions : after.scope.functions = before.scope.functions.insert name f
  bindings : after.scope.bindings = before.scope.bindings
  hosts : after.scope.hosts = before.scope.hosts
  captures : after.captures = before.captures

/-- What the name of a constant stands for is not decided by the environment. -/
theorem value?_of_isConstant (env : Environment) {name : String} (h : isConstant name = true) :
    env.value? name = constants.lookup name := by
  obtain ⟨v, hv⟩ := Option.isSome_iff_exists.1 h
  rw [value?, Scope.value?, hv]

variable {before after : Environment}

theorem Keeps.of_scope_eq (h : after.scope = before.scope) : before.Keeps after where
  scope := h
  others name hname := by
    rw [value?, value?, h]
    exact before.scope.value?_of_not_isCaptureName hname _ _

theorem Keeps.refl (env : Environment) : env.Keeps env :=
  .of_scope_eq rfl

theorem Binds.of_scope_eq {name : String} {v : Value} (hconstant : isConstant name = false)
    (h : after.scope = { before.scope with bindings := before.scope.bindings.insert name v }) :
    before.Binds name v after where
  bindings := by rw [h]
  functions := by rw [h]
  hosts := by rw [h]
  value := by
    have hlookup : constants.lookup name = none := by
      simpa [isConstant] using hconstant
    rw [value?, Scope.value?, hlookup, h]
    dsimp only
    rw [Table.get?_insert, if_pos rfl]
  others other hne hother := by
    rw [value?, value?, before.scope.value?_of_not_isCaptureName hother _ after.captures, h,
      Scope.value?, Scope.value?]
    dsimp only
    rw [Table.get?_insert, if_neg hne]

/-- Defining a function leaves all variables what they were. -/
theorem Defines.value?_eq {name : String} {f : UserFunction} (h : before.Defines name f after)
    (captures : Captures) (other : String) :
    after.scope.value? captures other = before.scope.value? captures other := by
  rw [Scope.value?, Scope.value?, h.bindings]

end Environment

/-! ## Assignments -/

namespace Session

variable {s s' : Session} {name body : String} {code : Code}

theorem assign_of_isConstant (h : isConstant name = true) :
    s.assign name body = (.error (.constantReassignment name), s) := by
  rw [assign, if_pos h]

theorem assign_of_convert_error (hconstant : isConstant name = false) {e : Fault}
    (h : s.convert body = .error e) : s.assign name body = (.error e, s) := by
  rw [assign, if_neg (Bool.eq_false_iff.1 hconstant), h]

theorem assign_of_execute_error (hconstant : isConstant name = false)
    (hconvert : s.convert body = .ok code) {e : Fault} (h : s.execute code = (.error e, s')) :
    s.assign name body = (.error e, s') := by
  rw [assign, if_neg (Bool.eq_false_iff.1 hconstant), hconvert]
  dsimp only
  rw [h]

/-- The session with a variable bound. -/
def bind (s : Session) (name : String) (v : Value) : Session :=
  let scope := s.environment.scope
  { s with environment := { s.environment with
    scope := { scope with bindings := scope.bindings.insert name v } } }

/-- Storing a value cannot fail where the target is a name and no constant. -/
theorem assign_of_execute_ok (hname : Text.isName name.toList = true)
    (hconstant : isConstant name = false) (hconvert : s.convert body = .ok code) {v : Value}
    (h : s.execute code = (.ok v, s')) :
    s.assign name body = (.ok (.assigned name v), s'.bind name v) := by
  have hset : s'.environment.scope.setVariable name v
      = .ok (s'.bind name v).environment.scope := by
    rw [Scope.setVariable, if_neg (Bool.eq_false_iff.1 hconstant), if_neg (by simp [hname])]
    rfl
  rw [assign, if_neg (Bool.eq_false_iff.1 hconstant), hconvert]
  dsimp only
  rw [h]
  dsimp only
  rw [hset]
  rfl

/-! ## Statements -/

/-- What a statement may have made of the environment of a session, by its kind and its
outcome. -/
def Permits (s : Session) (after : Environment) : Statement → Except Fault Value → Prop
  | .expression _, _ => s.environment.Keeps after
  | .assignment name _, .ok v => s.environment.Binds name v after
  | .assignment name body, .error e =>
    s.environment.Keeps after ∧
      (isConstant name = true ∨ (∃ e, s.convert body = .error e) → after = s.environment) ∧
      -- what fails otherwise is the execution: the value is stored without fail
      (isConstant name = false → ∀ code, s.convert body = .ok code →
        (s.execute code).1 = .error e)
  | .definition name parameters body, .ok _ =>
    ∃ f, s.closure parameters body = .ok f ∧ s.environment.Defines name f after
  | .definition _ _ _, .error _ => after = s.environment

theorem permits_evaluateExpression (s : Session) (source text : String) :
    s.Permits (s.evaluateExpression source).2.environment (.expression text)
      ((s.evaluateExpression source).1.map Evaluation.toValue) := by
  rw [evaluateExpression]
  split
  · exact .refl _
  · exact .of_scope_eq rfl

theorem permits_assign (s : Session) (body : String) (hname : Text.isName name.toList = true) :
    s.Permits (s.assign name body).2.environment (.assignment name body)
      ((s.assign name body).1.map Evaluation.toValue) := by
  cases hconstant : isConstant name with
  | true =>
      rw [assign_of_isConstant hconstant]
      refine ⟨.refl _, fun _ => rfl, fun h => ?_⟩
      rw [hconstant] at h
      cases h
  | false =>
      cases hconvert : s.convert body with
      | error e =>
          rw [assign_of_convert_error hconstant hconvert]
          refine ⟨.refl _, fun _ => rfl, fun _ code h => ?_⟩
          rw [hconvert] at h
          cases h
      | ok code =>
          have hscope := s.scope_execute code
          rcases hexecute : s.execute code with ⟨e | v, s'⟩
          · rw [hexecute] at hscope
            rw [assign_of_execute_error hconstant hconvert hexecute]
            refine ⟨.of_scope_eq hscope, ?_, ?_⟩
            · rintro (h | ⟨e', h⟩)
              · rw [hconstant] at h
                cases h
              · rw [hconvert] at h
                cases h
            · intro _ code' h
              rw [hconvert] at h
              cases h
              rw [hexecute]
          · rw [hexecute] at hscope
            rw [assign_of_execute_ok hname hconstant hconvert hexecute]
            refine .of_scope_eq hconstant ?_
            rw [← hscope]
            rfl

theorem permits_define (s : Session) (name : String) (parameters : List String) (body : String) :
    s.Permits (s.define name parameters body).2.environment (.definition name parameters body)
      ((s.define name parameters body).1.map Evaluation.toValue) := by
  rw [define]
  split
  · rfl
  · split
    · rfl
    · cases hclosure : s.closure parameters body with
      | error e => rfl
      | ok f =>
          dsimp only
          split
          · rfl
          · rename_i scope hdefine
            cases Scope.eq_of_define hdefine
            exact ⟨f, hclosure, rfl, rfl, rfl, rfl⟩

theorem permits_runStatement (s : Session) (source : String) :
    s.Permits (s.runStatement source).2.environment
      (Statement.classify (Statement.prepare source.toList))
      ((s.runStatement source).1.map Evaluation.toValue) := by
  rw [runStatement]
  by_cases hempty : (Statement.prepare source.toList).isEmpty = true
  · rw [if_pos hempty, List.isEmpty_iff.1 hempty]
    exact Environment.Keeps.refl _
  · rw [if_neg hempty]
    cases hclassify : Statement.classify (Statement.prepare source.toList) with
    | assignment name body =>
        exact s.permits_assign body (Statement.isName_of_classify_assignment hclassify)
    | definition name parameters body => exact s.permits_define name parameters body
    | expression text => exact s.permits_evaluateExpression text text

theorem evaluateStatement_fst (s : Session) (source : String) :
    (s.evaluateStatement source).1 = (s.runStatement source).1 := by
  rw [evaluateStatement_eq]

theorem environment_evaluateStatement (s : Session) (source : String) :
    (s.evaluateStatement source).2.environment = (s.runStatement source).2.environment := by
  rw [evaluateStatement_eq, environment_record]

theorem evaluate_fst (s : Session) (source : String) :
    (s.evaluate source).1 = (s.runStatement source).1.map Evaluation.toValue := by
  rw [← evaluateStatement_fst]
  rfl

theorem environment_evaluate (s : Session) (source : String) :
    (s.evaluate source).2.environment = (s.runStatement source).2.environment :=
  s.environment_evaluateStatement source

/-- No statement registers a function of the host. -/
theorem Permits.hosts {after : Environment} {statement : Statement} {outcome : Except Fault Value}
    (h : s.Permits after statement outcome) :
    after.scope.hosts = s.environment.scope.hosts := by
  cases statement with
  | expression source => rw [Environment.Keeps.scope h]
  | assignment name body =>
      cases outcome with
      | ok v => exact Environment.Binds.hosts h
      | error e => rw [h.1.scope]
  | definition name parameters body =>
      cases outcome with
      | ok v =>
          obtain ⟨f, -, hdefines⟩ := h
          exact hdefines.hosts
      | error e => rw [show after = s.environment from h]

/-- A statement changes the environment only as its kind and its outcome allow. Constants and
functions of the host stay what they are in any case. -/
theorem evaluate_permits (s : Session) (source : String) :
    let kind := Statement.classify (Statement.prepare source.toList)
    let after := (s.evaluate source).2.environment
    s.Permits after kind (s.evaluate source).1 ∧
      (∀ name, isConstant name = true → after.value? name = s.environment.value? name) ∧
      after.scope.hosts = s.environment.scope.hosts := by
  intro kind after
  have hpermits : s.Permits after kind (s.evaluate source).1 := by
    rw [evaluate_fst, show after = _ from s.environment_evaluate source]
    exact s.permits_runStatement source
  refine ⟨hpermits, fun name hname => ?_, hpermits.hosts⟩
  rw [after.value?_of_isConstant hname, s.environment.value?_of_isConstant hname]

end Session

end Reckon
