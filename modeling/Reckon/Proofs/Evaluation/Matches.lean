/-
# Reckon.Proofs.Evaluation.Matches — what matches do, and that only they touch the captures

A match gives all captures anew: as many as its pattern has groups, the whole match first. An
attempt that finds nothing leaves none, and a pattern that is refused leaves those there are
(`Machine.matching_matchPattern`).

Nothing else that a run does changes the captures. Those that it leaves, whether it ends well, fails
or is cut off, are those that the matches leave which it has tried, one after the other
(`Code.evaluate_matches`).
-/
import Reckon.Proofs.Evaluation.Run
import Reckon.Proofs.Outcome

namespace Reckon

/-! ## One match -/

namespace Pattern

/-- The text of a group of a match; that of a group that took no part in it is empty. -/
def groupText (text : List Char) (notes : Notes) (i : Nat) : List Char :=
  match notes.getD (2 * i) none, notes.getD (2 * i + 1) none with
  | some first, some last => stretch text first last
  | _, _ => []

theorem groupTexts_eq_map (text : List Char) (groups : Nat) (notes : Notes) :
    groupTexts text groups notes = (List.range groups).map (groupText text notes) :=
  rfl

/-- Every pattern has the group of the whole match. -/
theorem groups_pos {text : List Char} {program : Program}
    (h : compileDelimited text = .ok program) : 0 < program.groups := by
  obtain ⟨⟨body, letters⟩, -, h⟩ := Outcome.bind_eq_ok_iff.1 h
  obtain ⟨flags, -, h⟩ := Outcome.bind_eq_ok_iff.1 h
  split at h
  · cases h
    exact Nat.succ_pos _
  · cases h

end Pattern

namespace Machine

/-- What a match of two values does: it finds the groups of the pattern and they become the
captures, or finds nothing and there are no captures, or the pattern is refused and the captures
stay. -/
def Matching (captures : Captures) (subject pattern : Value)
    (outcome : Except Fault Value × Captures) : Prop :=
  (∃ program notes, pattern.isContainer = false ∧
    Pattern.compileDelimited pattern.display.toList = .ok program ∧
    Pattern.searchFrom program 0 none [] none subject.display.toList = some notes ∧
    0 < program.groups ∧
    outcome = (.ok (.number 1.0), (List.range program.groups).map fun i =>
      String.ofList (Pattern.groupText subject.display.toList notes i))) ∨
  (∃ program, pattern.isContainer = false ∧
    Pattern.compileDelimited pattern.display.toList = .ok program ∧
    Pattern.searchFrom program 0 none [] none subject.display.toList = none ∧
    outcome = (.ok (.number 0.0), [])) ∨
  ∃ cause, outcome = (.error (.invalidPattern pattern.display cause), captures)

theorem matching_matchPattern (subject pattern : Value) (captures : Captures) :
    Matching captures subject pattern ((matchPattern subject pattern).run captures) := by
  rw [matchPattern_run, matchOutcome]
  by_cases hcontainer : pattern.isContainer = true
  · rw [if_pos hcontainer]
    exact .inr (.inr ⟨_, rfl⟩)
  · rw [if_neg hcontainer]
    have hnot := Bool.eq_false_iff.2 hcontainer
    cases hcompile : Pattern.compileDelimited pattern.display.toList with
    | error cause => exact .inr (.inr ⟨cause, rfl⟩)
    | ok program =>
        dsimp only
        rw [Pattern.Program.search?]
        cases hsearch : Pattern.searchFrom program 0 none [] none subject.display.toList with
        | none => exact .inr (.inl ⟨program, hnot, hcompile, hsearch, rfl⟩)
        | some notes =>
            refine .inl ⟨program, notes, hnot, hcompile, hsearch, Pattern.groups_pos hcompile, ?_⟩
            refine Prod.ext rfl ?_
            rw [Option.map_some, Pattern.groupTexts_eq_map]
            exact List.map_map

end Machine

/-! ## The matches of a run -/

/-- The captures after a subject has been matched against a pattern. -/
def Captures.afterMatch (captures : Captures) (m : Value × Value) : Captures :=
  ((Machine.matchPattern m.1 m.2).run captures).2

/-- The captures after several matches, one after the other. -/
def Captures.afterMatches (captures : Captures) (tried : List (Value × Value)) : Captures :=
  tried.foldl afterMatch captures

namespace Run

variable {α β : Type}

/-- The run changes the captures by matches only. -/
def OnlyMatches (x : Run α) : Prop :=
  ∀ captures, ∃ tried, (x.run captures).2 = captures.afterMatches tried

theorem onlyMatches_pure (a : α) : OnlyMatches (pure a : Run α) :=
  fun _ => ⟨[], rfl⟩

theorem onlyMatches_throw (e : Fault) : OnlyMatches (throw e : Run α) :=
  fun _ => ⟨[], rfl⟩

theorem onlyMatches_lift (x : Except Fault α) : OnlyMatches (Machine.lift x) :=
  fun _ => ⟨[], rfl⟩

theorem OnlyMatches.bind {x : Run α} {f : α → Run β} (hx : OnlyMatches x)
    (hf : ∀ a, OnlyMatches (f a)) : OnlyMatches (x >>= f) := by
  intro captures
  obtain ⟨tried, htried⟩ := hx captures
  rcases hrun : x.run captures with ⟨e | a, left⟩
  · rw [hrun] at htried
    exact ⟨tried, by rw [run_bind_of_error hrun, ← htried]⟩
  · rw [hrun] at htried
    obtain ⟨later, hlater⟩ := hf a left
    refine ⟨tried ++ later, ?_⟩
    rw [run_bind_of_ok hrun, hlater, show left = captures.afterMatches tried from htried]
    exact List.foldl_append.symm

end Run

namespace Machine

variable {scope : Scope} {inside : Frame → Code → Run Value}

theorem load_onlyMatches (frame : Frame) (o : Operand) : (load scope frame o).OnlyMatches :=
  fun captures => ⟨[], by rw [load_run]; rfl⟩

theorem binary_onlyMatches (op : Operator) (a b : Value) : (binary op a b).OnlyMatches := by
  cases op with
  | matching => exact fun captures => ⟨[(a, b)], rfl⟩
  | equal => exact Run.onlyMatches_pure _
  | notEqual => exact Run.onlyMatches_pure _
  | and => exact Run.onlyMatches_pure _
  | or => exact Run.onlyMatches_pure _
  | negate => exact Run.onlyMatches_throw _
  | not => exact Run.onlyMatches_throw _
  | _ => exact Run.onlyMatches_lift _

theorem operator_onlyMatches (frame : Frame) (stack : List Value) (op : Operator) :
    (step scope inside frame stack (.operator op)).OnlyMatches := by
  rcases stack with _ | ⟨b, _ | ⟨a, stack⟩⟩
  · cases op <;> exact Run.onlyMatches_throw _
  · cases op with
    | negate => exact (Run.onlyMatches_lift _).bind fun v => Run.onlyMatches_pure _
    | not => exact Run.onlyMatches_pure _
    | _ => exact Run.onlyMatches_throw _
  · cases op with
    | negate => exact (Run.onlyMatches_lift _).bind fun v => Run.onlyMatches_pure _
    | not => exact Run.onlyMatches_pure _
    | _ => exact (binary_onlyMatches _ a b).bind fun v => Run.onlyMatches_pure _

theorem callStep_onlyMatches (hinside : ∀ frame body, (inside frame body).OnlyMatches)
    (name : String) (count : Nat) (stack : List Value) :
    (callStep scope inside name count stack).OnlyMatches := by
  rw [callStep]
  cases scope.resolve? name with
  | none => exact Run.onlyMatches_throw _
  | some callee =>
      dsimp only
      split
      · exact Run.onlyMatches_throw _
      · refine (Run.onlyMatches_lift _).bind ?_
        rintro ⟨args, rest⟩
        refine Run.OnlyMatches.bind ?_ fun v => Run.onlyMatches_pure _
        cases callee with
        | builtin => exact Run.onlyMatches_lift _
        | host f => exact Run.onlyMatches_lift _
        | user f => exact hinside _ f.body

theorem step_onlyMatches (hinside : ∀ frame body, (inside frame body).OnlyMatches) (frame : Frame)
    (stack : List Value) (i : Instruction) : (step scope inside frame stack i).OnlyMatches := by
  cases i with
  | operand o => exact (load_onlyMatches frame o).bind fun v => Run.onlyMatches_pure _
  | operator op => exact operator_onlyMatches frame stack op
  | selector body => exact (hinside frame body).bind fun v => Run.onlyMatches_pure _
  | index =>
      rcases stack with _ | ⟨b, _ | ⟨a, stack⟩⟩
      · exact Run.onlyMatches_throw _
      · exact Run.onlyMatches_throw _
      · exact (Run.onlyMatches_lift _).bind fun v => Run.onlyMatches_pure _
  | call name count => exact callStep_onlyMatches hinside name count stack

theorem foldlM_step_onlyMatches (hinside : ∀ frame body, (inside frame body).OnlyMatches)
    (frame : Frame) (code : Code) (stack : List Value) :
    (code.foldlM (step scope inside frame) stack).OnlyMatches := by
  induction code generalizing stack with
  | nil => exact Run.onlyMatches_pure stack
  | cons i code ih =>
      rw [List.foldlM_cons]
      exact (step_onlyMatches hinside frame stack i).bind ih

theorem runWith_onlyMatches (hinside : ∀ frame body, (inside frame body).OnlyMatches)
    (frame : Frame) (code : Code) : (runWith scope inside frame code).OnlyMatches :=
  (foldlM_step_onlyMatches hinside frame code []).bind fun _ => Run.onlyMatches_lift _

theorem runWithin_onlyMatches (scope : Scope) (limit budget : Nat) (frame : Frame) (code : Code) :
    (runWithin scope limit budget frame code).OnlyMatches := by
  induction budget generalizing frame code with
  | zero => exact runWith_onlyMatches (fun _ _ => Run.onlyMatches_throw _) frame code
  | succ budget ih => exact runWith_onlyMatches ih frame code

end Machine

/-- The captures that code leaves are those that matches leave. -/
theorem Code.evaluate_matches (env : Environment) (limit depth : Nat) (frame : Frame)
    (code : Code) :
    ∃ tried, (code.evaluate env limit depth frame).2 = env.captures.afterMatches tried :=
  Machine.runWithin_onlyMatches env.scope limit (limit - depth) frame code env.captures

end Reckon
