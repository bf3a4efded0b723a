/-
# Reckon.Proofs.Evaluation.Run — taking runs apart

A run starts from captures, ends in a value or a fault, and leaves captures either way.
-/
import Reckon.Evaluation.Machine

namespace Reckon.Run

variable {α β : Type}

/-- A run goes on from its first part with the captures that this part leaves, unless the first
part fails. -/
theorem run_bind (x : Run α) (f : α → Run β) (captures : Captures) :
    (x >>= f).run captures
      = match x.run captures with
        | (.ok a, left) => (f a).run left
        | (.error e, left) => (.error e, left) := by
  have h : (x >>= f).run captures
      = (ExceptT.bindCont f (x.run captures).1) (x.run captures).2 := rfl
  rw [h]
  rcases x.run captures with ⟨e | a, left⟩
  · rfl
  · rfl

theorem run_bind_of_ok {x : Run α} {captures left : Captures} {a : α}
    (h : x.run captures = (.ok a, left)) (f : α → Run β) :
    (x >>= f).run captures = (f a).run left := by
  rw [run_bind, h]

theorem run_bind_of_error {x : Run α} {captures left : Captures} {e : Fault}
    (h : x.run captures = (.error e, left)) (f : α → Run β) :
    (x >>= f).run captures = (.error e, left) := by
  rw [run_bind, h]

theorem run_bind_pure (x : Run α) (f : α → β) (captures : Captures) :
    (x >>= fun a => pure (f a)).run captures
      = ((x.run captures).1.map f, (x.run captures).2) := by
  rw [run_bind]
  rcases x.run captures with ⟨e | a, left⟩
  · rfl
  · rfl

end Reckon.Run

namespace Reckon.Machine

/-- What an operand is loaded as when the captures are known. -/
def loadOutcome (scope : Scope) (frame : Frame) (captures : Captures) :
    Operand → Except Fault Value
  | .number x => .ok (.number x)
  | .text s => .ok (.text s)
  | .pattern raw => .ok (.text raw)
  | .value v => .ok v
  | .json raw =>
    match Json.read? raw.toList with
    | some v => .ok v
    | none => .error (.invalidJson raw)
  | .identifier name =>
    match frame.get? name with
    | some v => .ok v
    | none =>
      match scope.value? captures name with
      | some v => .ok v
      | none => .error (.undefinedVariable name)

/-- Loading an operand leaves the captures alone. -/
theorem load_run (scope : Scope) (frame : Frame) (o : Operand) (captures : Captures) :
    (load scope frame o).run captures = (loadOutcome scope frame captures o, captures) := by
  cases o with
  | identifier name =>
      rw [load, loadOutcome]
      cases frame.get? name with
      | some v => rfl
      | none =>
          have hget : (get : Run Captures).run captures = (.ok captures, captures) := rfl
          dsimp only
          rw [Run.run_bind_of_ok hget]
          cases scope.value? captures name with
          | some v => rfl
          | none => rfl
  | json raw =>
      rw [load, loadOutcome]
      cases Json.read? raw.toList with
      | some v => rfl
      | none => rfl
  | _ => rfl

/-- The outcome of a match, and the captures that it sets if it sets them. -/
def matchOutcome (subject pattern : Value) : Except Fault Value × Option Captures :=
  let text := pattern.display
  if pattern.isContainer then (.error (.invalidPattern text (.notText pattern.kind)), none)
  else
    match Pattern.compileDelimited text.toList with
    | .error cause => (.error (.invalidPattern text cause), none)
    | .ok program =>
      match program.search? subject.display.toList with
      | some groups => (.ok (.number 1.0), some (groups.map String.ofList))
      | none => (.ok (.number 0.0), some [])

/-- The captures make no difference to a match. -/
theorem matchPattern_run (subject pattern : Value) (captures : Captures) :
    (matchPattern subject pattern).run captures
      = ((matchOutcome subject pattern).1, (matchOutcome subject pattern).2.getD captures) := by
  rw [matchPattern, matchOutcome]
  by_cases hcontainer : pattern.isContainer = true
  · rw [if_pos hcontainer]
    simp only [hcontainer, if_true]
    rfl
  · rw [if_neg hcontainer]
    simp only [hcontainer]
    cases Pattern.compileDelimited pattern.display.toList with
    | error cause => rfl
    | ok program =>
        dsimp only
        cases program.search? subject.display.toList with
        | some groups => rfl
        | none => rfl

/-- The arguments of a call are on the stack, all of them. -/
theorem takeArguments_eq_ok {count : Nat} {stack args rest : List Value}
    (h : takeArguments count stack = .ok (args, rest)) :
    count ≤ stack.length ∧ args = (stack.take count).reverse ∧ rest = stack.drop count := by
  rw [takeArguments] at h
  split at h
  · cases h
  · rename_i hcount
    cases h
    exact ⟨Nat.not_lt.1 hcount, rfl, rfl⟩

end Reckon.Machine
