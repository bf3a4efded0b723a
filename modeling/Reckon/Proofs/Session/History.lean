/-
# Reckon.Proofs.Session.History — whatever a host does with a session

A host has a session evaluate statements, convert and execute code, bind variables and register
functions, in any order and as often as it likes. The code it executes is code that the session
converted earlier; by then the functions it calls may have been defined anew.

What a request can do to the scope of the session is said once, in `Session.Updates`: nothing,
or one binding, or the definition or registration of the one function that the request names.
What holds of the scope a session starts with and is kept by these holds of every scope that a
session reaches (`History.after_induction`).
-/
import Reckon.Proofs.Outcome
import Reckon.Session.Basic

namespace Reckon

/-! ## Requests -/

/-- What a host can ask for. -/
inductive Request where
  | evaluate (source : String)
  | evaluateStatement (source : String)
  /-- Converts a formula and keeps the code. -/
  | convert (source : String)
  /-- Executes code that has been kept, by its place. -/
  | execute (place : Nat)
  | setVariable (name : String) (v : Value)
  | register (name : String) (f : HostFunction)
  | setQuiet (quiet : Bool)

/-- A session, and the code that the host has kept, in the order of its conversion. -/
structure History where
  session : Session
  kept : List Code := []

namespace History

/-- A history in which nothing has been asked for yet. -/
def start (settings : Settings) : History where
  session := { settings }

/-- The history with the session in a new state. -/
def resume (h : History) (session : Session) : History :=
  { h with session }

/-- Answers a request: whether it went well, and what the history is then. There is nothing to do
where no code has been kept. -/
def respond (h : History) : Request → Except Fault Unit × History
  | .evaluate source =>
    let (outcome, session) := h.session.evaluate source
    (outcome.map fun _ => (), h.resume session)
  | .evaluateStatement source =>
    let (outcome, session) := h.session.evaluateStatement source
    (outcome.map fun _ => (), h.resume session)
  | .convert source =>
    match h.session.convert source with
    | .ok code => (.ok (), { h with kept := h.kept ++ [code] })
    | .error e => (.error e, h)
  | .execute place =>
    match h.kept[place]? with
    | none => (.ok (), h)
    | some code =>
      let (outcome, session) := h.session.execute code
      (outcome.map fun _ => (), h.resume session)
  | .setVariable name v =>
    match h.session.setVariable name v with
    | .ok session => (.ok (), h.resume session)
    | .error e => (.error e, h)
  | .register name f =>
    match h.session.register name f with
    | .ok session => (.ok (), h.resume session)
    | .error e => (.error e, h)
  | .setQuiet quiet => (.ok (), h.resume (h.session.setQuiet quiet))

/-- The history after requests. -/
def after (h : History) (requests : List Request) : History :=
  requests.foldl (fun h request => (h.respond request).2) h

/-- The answers to requests. -/
def responses (h : History) : List Request → List (Except Fault Unit)
  | [] => []
  | request :: rest => (h.respond request).1 :: (h.respond request).2.responses rest

/-- What every request keeps holds after any number of them. -/
theorem after_induction {P : History → Prop} (step : ∀ h request, P h → P (h.respond request).2)
    {h : History} (hstart : P h) (requests : List Request) : P (h.after requests) := by
  induction requests generalizing h with
  | nil => exact hstart
  | cons request rest ih => exact ih (step h request hstart)

/-- What is true of every answer that is given while `P` holds is true of all answers. -/
theorem responses_induction {P : History → Prop} {Q : Except Fault Unit → Prop}
    (step : ∀ h request, P h → Q (h.respond request).1 ∧ P (h.respond request).2)
    {h : History} (hstart : P h) (requests : List Request) :
    ∀ response ∈ h.responses requests, Q response := by
  induction requests generalizing h with
  | nil =>
      intro response hmem
      cases hmem
  | cons request rest ih =>
      intro response hmem
      rcases List.mem_cons.1 hmem with rfl | hmem
      · exact (step h request hstart).1
      · exact ih (step h request hstart).2 response hmem

end History

/-- Environments that a session can have. -/
def Environment.Reached (env : Environment) : Prop :=
  ∃ settings requests, ((History.start settings).after requests).session.environment = env

/-! ## The record of a statement -/

namespace Session

/-- A session with the record of what a statement came to. -/
def record (s : Session) : Except Fault Evaluation → Session
  | .ok _ => { s with lastError := none, warnings := [] }
  | .error e => { s with
      lastError := some e.message
      warnings := if s.settings.quiet then [] else [e.message] }

theorem evaluateStatement_eq (s : Session) (source : String) :
    s.evaluateStatement source
      = ((s.runStatement source).1,
          (s.runStatement source).2.record (s.runStatement source).1) := by
  rw [evaluateStatement]
  rcases s.runStatement source with ⟨e | result, s'⟩
  · rfl
  · rfl

/-- The record of what went wrong is no part of the environment. -/
@[simp]
theorem environment_record (s : Session) (outcome : Except Fault Evaluation) :
    (s.record outcome).environment = s.environment := by
  cases outcome with
  | error e => rfl
  | ok result => rfl

end Session

/-! ## What requests do to the scope -/

/-- The function that a statement defines. -/
def Statement.defines? : Statement → Option String
  | definition name _ _ => some name
  | assignment _ _ | expression _ => none

/-- The function that a request defines or registers, if it goes well. -/
def Request.defines? : Request → Option String
  | evaluate source | evaluateStatement source =>
    (Statement.classify (Statement.prepare source.toList)).defines?
  | register name _ => some name
  | convert _ | execute _ | setVariable _ _ | setQuiet _ => none

/-- The scopes that a session can have after one request, which may define the function
`defines?`. -/
inductive Session.Updates (s : Session) : Option String → Scope → Prop
  | same {defines? : Option String} : Updates s defines? s.environment.scope
  | bound {defines? : Option String} {name : String} {v : Value} {scope : Scope} :
      s.environment.scope.setVariable name v = .ok scope → Updates s defines? scope
  | defined {name : String} {parameters : List String} {body : String} {f : UserFunction}
      {scope : Scope} : s.closure parameters body = .ok f →
      s.environment.scope.define name f = .ok scope → Updates s (some name) scope
  | registered {name : String} {f : HostFunction} {scope : Scope} :
      s.environment.scope.register name f = .ok scope → Updates s (some name) scope

namespace Session

variable {defines? : Option String}

/-- Executing code changes nothing but the captures. -/
theorem scope_execute (s : Session) (code : Code) :
    (s.execute code).2.environment.scope = s.environment.scope :=
  rfl

theorem updates_evaluateExpression (s : Session) (source : String) :
    s.Updates defines? (s.evaluateExpression source).2.environment.scope := by
  rw [evaluateExpression]
  split
  · exact .same
  · exact .same

theorem updates_assign (s : Session) (name body : String) :
    s.Updates defines? (s.assign name body).2.environment.scope := by
  rw [assign]
  split
  · exact .same
  · split
    · exact .same
    · rename_i code _
      have hscope := s.scope_execute code
      split
      · rename_i s' hrun
        rw [hrun] at hscope
        exact hscope ▸ .same
      · rename_i v s' hrun
        rw [hrun] at hscope
        dsimp only at hscope
        split
        · exact hscope ▸ .same
        · rename_i scope hset
          rw [hscope] at hset
          exact .bound hset

theorem updates_define (s : Session) (name : String) (parameters : List String) (body : String) :
    s.Updates (some name) (s.define name parameters body).2.environment.scope := by
  rw [define]
  split
  · exact .same
  · split
    · exact .same
    · split
      · exact .same
      · rename_i f hf
        split
        · exact .same
        · rename_i scope hscope
          exact .defined hf hscope

theorem updates_runStatement (s : Session) (source : String) :
    s.Updates (Statement.classify (Statement.prepare source.toList)).defines?
      (s.runStatement source).2.environment.scope := by
  rw [runStatement]
  split
  · exact .same
  · cases Statement.classify (Statement.prepare source.toList) with
    | assignment name body => exact s.updates_assign name body
    | definition name parameters body => exact s.updates_define name parameters body
    | expression source => exact s.updates_evaluateExpression source

theorem updates_evaluateStatement (s : Session) (source : String) :
    s.Updates (Statement.classify (Statement.prepare source.toList)).defines?
      (s.evaluateStatement source).2.environment.scope := by
  rw [evaluateStatement_eq, environment_record]
  exact s.updates_runStatement source

end Session

namespace History

/-- A request updates the scope in one of these ways. -/
theorem updates_respond (h : History) (request : Request) :
    h.session.Updates request.defines? (h.respond request).2.session.environment.scope := by
  cases request with
  | evaluate source => exact h.session.updates_evaluateStatement source
  | evaluateStatement source => exact h.session.updates_evaluateStatement source
  | convert source =>
      rw [respond]
      split
      · exact .same
      · exact .same
  | execute place =>
      rw [respond]
      split
      · exact .same
      · exact .same
  | setVariable name v =>
      rw [respond]
      split
      · rename_i session hsession
        obtain ⟨scope, hscope, heq⟩ := Outcome.bind_eq_ok_iff.1 hsession
        cases heq
        exact .bound hscope
      · exact .same
  | register name f =>
      rw [respond]
      split
      · rename_i session hsession
        obtain ⟨scope, hscope, heq⟩ := Outcome.bind_eq_ok_iff.1 hsession
        cases heq
        exact .registered hscope
      · exact .same
  | setQuiet quiet => exact .same

/-- Code that is kept after a request was kept before, or has been converted by it. -/
theorem mem_kept_respond {h : History} {request : Request} {code : Code}
    (hmem : code ∈ (h.respond request).2.kept) :
    code ∈ h.kept ∨ ∃ source, h.session.convert source = .ok code := by
  cases request with
  | convert source =>
      rw [respond] at hmem
      split at hmem
      · rename_i converted hconverted
        rcases List.mem_append.1 hmem with hmem | hmem
        · exact .inl hmem
        · cases List.mem_singleton.1 hmem
          exact .inr ⟨source, hconverted⟩
      · exact .inl hmem
  | execute place =>
      rw [respond] at hmem
      split at hmem
      · exact .inl hmem
      · exact .inl hmem
  | setVariable name v =>
      rw [respond] at hmem
      split at hmem
      · exact .inl hmem
      · exact .inl hmem
  | register name f =>
      rw [respond] at hmem
      split at hmem
      · exact .inl hmem
      · exact .inl hmem
  | _ => exact .inl hmem

end History

end Reckon
