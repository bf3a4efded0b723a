/-
# Reckon.Proofs.Session.Integrity — a session never contradicts itself

Whatever a host asks of a session, no answer is a contradiction, and none says that a function is
undefined. The invariant is that the bodies of all functions and all kept code are intact
(`History.Intact`). It survives any definition, since a name that stands for a function goes on
standing for one, if for another.
-/
import Reckon.Proofs.Conversion.Faults
import Reckon.Proofs.Evaluation.Faults
import Reckon.Proofs.Session.Freezing
import Reckon.Proofs.Session.History

namespace Reckon

open Outcome (Clean raises_ok raises_error)

/-! ## Functions stay functions -/

namespace Scope

theorem isSome_resolve?_iff (scope : Scope) (name : String) :
    (scope.resolve? name).isSome = true ↔ Builtin.isName name = true ∨
      (scope.functions.get? name).isSome = true ∨ (scope.hosts.get? name).isSome = true := by
  rw [resolve?]
  by_cases hname : Builtin.isName name = true
  · simp [hname]
  · rw [if_neg hname]
    cases hf : scope.functions.get? name with
    | none => simp [hname]
    | some f => simp

theorem isSome_arity? (scope : Scope) (name : String) :
    (scope.arity? name).isSome = (scope.resolve? name).isSome :=
  Option.isSome_map

theorem eq_of_setVariable {scope scope' : Scope} {name : String} {v : Value}
    (h : scope.setVariable name v = .ok scope') :
    Text.isName name.toList = true ∧
      scope' = { scope with bindings := scope.bindings.insert name v } := by
  rw [setVariable] at h
  split at h
  · cases h
  · split at h
    · cases h
    · rename_i hname
      cases h
      exact ⟨by simpa using hname, rfl⟩

theorem eq_of_define {scope scope' : Scope} {name : String} {f : UserFunction}
    (h : scope.define name f = .ok scope') :
    scope' = { scope with functions := scope.functions.insert name f } := by
  rw [define] at h
  split at h
  · cases h
  · cases h
    rfl

theorem eq_of_register {scope scope' : Scope} {name : String} {f : HostFunction}
    (h : scope.register name f = .ok scope') :
    scope' = { scope with hosts := scope.hosts.insert name f } := by
  rw [register] at h
  split at h
  · cases h
  · split at h
    · cases h
    · cases h
      rfl

end Scope

namespace Session

variable {s : Session} {defines? : Option String}

/-- A name that stands for a function stands for one after any request. -/
theorem Updates.isSome_resolve? {scope : Scope} (h : s.Updates defines? scope) {name : String}
    (hname : (s.environment.scope.resolve? name).isSome = true) :
    (scope.resolve? name).isSome = true := by
  rw [Scope.isSome_resolve?_iff] at hname ⊢
  cases h with
  | same => exact hname
  | bound hset =>
      rw [(Scope.eq_of_setVariable hset).2]
      exact hname
  | defined _ hdefine =>
      rw [Scope.eq_of_define hdefine]
      exact hname.imp_right (Or.imp_left fun h => Table.isSome_get?_insert h _ _)
  | registered hregister =>
      rw [Scope.eq_of_register hregister]
      exact hname.imp_right (Or.imp_right fun h => Table.isSome_get?_insert h _ _)

theorem Updates.intact_code {scope : Scope} (h : s.Updates defines? scope) {code : Code}
    (hcode : code.Intact s.environment.scope) : code.Intact scope :=
  ⟨hcode.1, fun name hcalls => h.isSome_resolve? (hcode.2 name hcalls)⟩

/-! ## What is converted and stored is intact -/

theorem intact_of_convert {source : String} {code : Code} (h : s.convert source = .ok code) :
    code.Intact s.environment.scope := by
  obtain ⟨e, he, hcalls⟩ := Code.exists_postorder_of_ofFormula h
  refine ⟨⟨e, he⟩, fun name hname => ?_⟩
  rw [← Scope.isSome_arity?]
  exact hcalls name hname

/-- Freezing keeps the tree and the calls, and leaves no names but parameters. -/
theorem intact_of_closure {parameters : List String} {body : String} {f : UserFunction}
    (h : s.closure parameters body = .ok f) :
    f.body.Intact s.environment.scope ∧ f.Closed := by
  obtain ⟨code, hcode, hclosure⟩ := Outcome.bind_eq_ok_iff.1 h
  obtain ⟨frozen, hfrozen, heq⟩ := Outcome.bind_eq_ok_iff.1 hclosure
  cases heq
  obtain ⟨⟨e, rfl⟩, hcalls⟩ := intact_of_convert hcode
  refine ⟨⟨Expression.freeze_postorder hfrozen, ?_⟩, fun name hreads => ?_⟩
  · rintro name ⟨count, hmem⟩
    exact hcalls name ⟨count, (Code.parts_of_freeze name hfrozen).2 count hmem⟩
  · exact (Code.parts_of_freeze name hfrozen).1 hreads

theorem Updates.intact {scope : Scope} (h : s.Updates defines? scope)
    (hscope : s.environment.scope.Intact) : scope.Intact := by
  intro name f hf
  -- what the session knows before the request it knows afterwards
  suffices hold : f.body.Intact s.environment.scope ∧ f.Closed from
    ⟨h.intact_code hold.1, hold.2⟩
  cases h with
  | same => exact hscope name f hf
  | bound hset =>
      rw [(Scope.eq_of_setVariable hset).2] at hf
      exact hscope name f hf
  | defined hclosure hdefine =>
      rw [Scope.eq_of_define hdefine, Table.get?_insert] at hf
      split at hf
      · cases hf
        exact intact_of_closure hclosure
      · exact hscope name f hf
  | registered hregister =>
      rw [Scope.eq_of_register hregister] at hf
      exact hscope name f hf

end Session

/-! ## Answers -/

namespace Scope

theorem setVariable_clean (scope : Scope) (name : String) (v : Value) :
    Clean (scope.setVariable name v) := by
  rw [setVariable]
  split
  · exact raises_error rfl
  · split
    · exact raises_error rfl
    · exact raises_ok _

theorem define_clean (scope : Scope) (name : String) (f : UserFunction) :
    Clean (scope.define name f) := by
  rw [define]
  split
  · exact raises_error rfl
  · exact raises_ok _

theorem register_clean (scope : Scope) (name : String) (f : HostFunction) :
    Clean (scope.register name f) := by
  rw [register]
  split
  · exact raises_error rfl
  · split
    · exact raises_error rfl
    · exact raises_ok _

end Scope

namespace Session

variable {s : Session}

theorem convert_clean (s : Session) (source : String) : Clean (s.convert source) :=
  Code.ofFormula_clean _ _ _

theorem closure_clean (s : Session) (parameters : List String) (body : String) :
    Clean (s.closure parameters body) := by
  apply (s.convert_clean body).bind
  intro code _
  exact (Code.freeze_clean code).bind fun _ _ => raises_ok _

theorem execute_clean (hscope : s.environment.scope.Intact) {code : Code}
    (hcode : code.Intact s.environment.scope) : Clean (s.execute code).1 :=
  Code.run_clean hscope hcode s.settings.recursionLimit 0 .empty s.environment.captures

theorem evaluateExpression_clean (hscope : s.environment.scope.Intact) (source : String) :
    Clean (s.evaluateExpression source).1 := by
  rw [evaluateExpression]
  split
  · rename_i e he
    exact raises_error (s.convert_clean source e he)
  · rename_i code hcode
    exact (execute_clean hscope (intact_of_convert hcode)).map _

theorem assign_clean (hscope : s.environment.scope.Intact) (name body : String) :
    Clean (s.assign name body).1 := by
  rw [assign]
  split
  · exact raises_error rfl
  · split
    · rename_i e he
      exact raises_error (s.convert_clean body e he)
    · rename_i code hcode
      have hrun := execute_clean hscope (intact_of_convert hcode)
      split
      · rename_i e s' hexecute
        rw [hexecute] at hrun
        exact raises_error (hrun e rfl)
      · rename_i v s' hexecute
        split
        · rename_i e he
          exact raises_error (Scope.setVariable_clean _ name v e he)
        · exact raises_ok _

theorem define_clean (s : Session) (name : String) (parameters : List String) (body : String) :
    Clean (s.define name parameters body).1 := by
  rw [define]
  split
  · exact raises_error rfl
  · split
    · exact raises_error rfl
    · split
      · rename_i e he
        exact raises_error (s.closure_clean parameters body e he)
      · split
        · rename_i e he
          exact raises_error (Scope.define_clean _ name _ e he)
        · exact raises_ok _

theorem setVariable_clean (s : Session) (name : String) (v : Value) :
    Clean (s.setVariable name v) :=
  (Scope.setVariable_clean _ name v).bind fun _ _ => raises_ok _

theorem register_clean (s : Session) (name : String) (f : HostFunction) :
    Clean (s.register name f) :=
  (Scope.register_clean _ name f).bind fun _ _ => raises_ok _

theorem evaluateStatement_clean (hscope : s.environment.scope.Intact) (source : String) :
    Clean (s.evaluateStatement source).1 := by
  rw [evaluateStatement_eq, runStatement]
  split
  · exact raises_error rfl
  · split
    · exact assign_clean hscope _ _
    · exact s.define_clean _ _ _
    · exact evaluateExpression_clean hscope _

end Session

namespace History

/-- The bodies of all functions and all kept code are intact. -/
def Intact (h : History) : Prop :=
  h.session.environment.scope.Intact ∧
    ∀ code ∈ h.kept, code.Intact h.session.environment.scope

theorem intact_start (settings : Settings) : (start settings).Intact := by
  constructor
  · intro name f hf
    cases hf
  · intro code hmem
    cases hmem

theorem Intact.respond {h : History} (hintact : h.Intact) (request : Request) :
    (h.respond request).2.Intact := by
  have hupdates := h.updates_respond request
  refine ⟨hupdates.intact hintact.1, fun code hmem => hupdates.intact_code ?_⟩
  rcases mem_kept_respond hmem with hmem | ⟨source, hconvert⟩
  · exact hintact.2 code hmem
  · exact Session.intact_of_convert hconvert

/-- No answer that is given while everything is intact is a defect. -/
theorem Intact.respond_clean {h : History} (hintact : h.Intact) (request : Request) :
    Clean (h.respond request).1 := by
  cases request with
  | evaluate source =>
      exact ((Session.evaluateStatement_clean hintact.1 source).map _).map _
  | evaluateStatement source =>
      exact (Session.evaluateStatement_clean hintact.1 source).map _
  | convert source =>
      rw [History.respond]
      split
      · exact raises_ok _
      · rename_i e he
        exact raises_error (h.session.convert_clean source e he)
  | execute place =>
      rw [History.respond]
      split
      · exact raises_ok _
      · rename_i code hcode
        have hmem := List.mem_of_getElem? hcode
        exact (Session.execute_clean hintact.1 (hintact.2 code hmem)).map _
  | setVariable name v =>
      rw [History.respond]
      split
      · exact raises_ok _
      · rename_i e he
        exact raises_error (h.session.setVariable_clean name v e he)
  | register name f =>
      rw [History.respond]
      split
      · exact raises_ok _
      · rename_i e he
        exact raises_error (h.session.register_clean name f e he)
  | setQuiet quiet => exact raises_ok _

/-- Whatever is asked of a session, no answer is a contradiction, and none says that a function
is undefined. -/
theorem responses_consistent (settings : Settings) (requests : List Request) :
    ∀ response ∈ (start settings).responses requests,
      (∀ cause, response ≠ .error (.inconsistent cause)) ∧
      ∀ name, response ≠ .error (.undefinedFunction name) := by
  have hclean := responses_induction
    (P := Intact) (Q := Clean) (h := start settings)
    (fun h request hintact => ⟨hintact.respond_clean request, hintact.respond request⟩)
    (intact_start settings) requests
  intro response hmem
  constructor
  · intro cause heq
    cases hclean response hmem _ heq
  · intro name heq
    cases hclean response hmem _ heq

/-- Code that calls a function with one argument, executed when the function takes two: the
answer is a fault, but no contradiction. -/
theorem responses_consistent_redefined :
    let requests : List Request :=
      [.evaluate "f(x) = x", .convert "f(pi)", .evaluate "f(x, y) = x", .execute 0]
    .error (.arity "f" 1 2) ∈ (start {}).responses requests ∧
      (∀ cause, (.error (.arity "f" 1 2) : Except Fault Unit) ≠ .error (.inconsistent cause)) ∧
      ∀ name, (.error (.arity "f" 1 2) : Except Fault Unit) ≠ .error (.undefinedFunction name) := by
  intro requests
  have hmem : .error (.arity "f" 1 2) ∈ (start {}).responses requests := by
    decide +kernel
  exact ⟨hmem, responses_consistent {} requests _ hmem⟩

end History

end Reckon
