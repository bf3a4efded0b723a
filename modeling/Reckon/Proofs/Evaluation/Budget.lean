/-
# Reckon.Proofs.Evaluation.Budget — the budget only ever cuts off

A run asks for its budget in one place: before it goes down a level, into a selector or into the
body of a function. All else that it does is the same under any budget. So a run under a larger
budget does what the run under the smaller one did, unless this was cut off (`Run.Extends`), and
runs under equal budgets are cut off in the same place. How a budget is made up of a limit and of
a depth already reached matters for nothing but the number in the message about the limit.
-/
import Reckon.Proofs.Evaluation.Run

namespace Reckon

namespace Run

variable {α β : Type} {even : Prop} {limit limit' : Nat}

/-- The second run does what the first one does, unless the limit cuts the first one off. If the
two are `even`, the limit then cuts off the second one as well, with the same captures. -/
def Extends (even : Prop) (limit limit' : Nat) (x x' : Run α) : Prop :=
  ∀ captures, x'.run captures = x.run captures ∨
    ∃ left, x.run captures = (.error (.recursionLimit limit), left) ∧
      (even → x'.run captures = (.error (.recursionLimit limit'), left))

theorem extends_refl (x : Run α) : Extends even limit limit' x x :=
  fun _ => .inl rfl

theorem extends_throw : Extends even limit limit' (throw (.recursionLimit limit) : Run α)
    (throw (.recursionLimit limit')) :=
  fun captures => .inr ⟨captures, rfl, fun _ => rfl⟩

/-- A run that is cut off is extended by any run that it is not even with. -/
theorem extends_throw_of_not (heven : ¬ even) (x : Run α) :
    Extends even limit limit' (throw (.recursionLimit limit)) x :=
  fun captures => .inr ⟨captures, rfl, fun h => absurd h heven⟩

theorem Extends.mono {even' : Prop} {x x' : Run α} (hx : Extends even limit limit' x x')
    (h : even' → even) : Extends even' limit limit' x x' := by
  intro captures
  rcases hx captures with hsame | ⟨left, hcut, hcut'⟩
  · exact .inl hsame
  · exact .inr ⟨left, hcut, fun heven => hcut' (h heven)⟩

theorem Extends.bind {x x' : Run α} {f f' : α → Run β} (hx : Extends even limit limit' x x')
    (hf : ∀ a, Extends even limit limit' (f a) (f' a)) :
    Extends even limit limit' (x >>= f) (x' >>= f') := by
  intro captures
  rcases hx captures with hsame | ⟨left, hcut, hcut'⟩
  · rcases hrun : x.run captures with ⟨e | a, left⟩
    · rw [hrun] at hsame
      rw [run_bind_of_error hrun, run_bind_of_error hsame]
      exact .inl rfl
    · rw [hrun] at hsame
      rw [run_bind_of_ok hrun, run_bind_of_ok hsame]
      exact hf a left
  · -- what comes after the cut makes no difference
    exact .inr ⟨left, run_bind_of_error hcut f, fun heven => run_bind_of_error (hcut' heven) f'⟩

end Run

namespace Machine

variable {scope : Scope} {inside inside' : Frame → Code → Run Value} {even : Prop}
variable {limit limit' : Nat}

/-! ## One level -/

theorem callStep_extends (name : String)
    (hinside : ∀ frame body, Run.Extends even limit limit' (inside frame body) (inside' frame body))
    (count : Nat) (stack : List Value) :
    Run.Extends even limit limit' (callStep scope inside name count stack)
      (callStep scope inside' name count stack) := by
  rw [callStep, callStep]
  cases scope.resolve? name with
  | none => exact Run.extends_refl _
  | some callee =>
      dsimp only
      split
      · exact Run.extends_refl _
      · refine (Run.extends_refl _).bind ?_
        rintro ⟨args, rest⟩
        refine Run.Extends.bind ?_ fun v => Run.extends_refl _
        cases callee with
        | builtin => exact Run.extends_refl _
        | host f => exact Run.extends_refl _
        | user f => exact hinside _ f.body

/-- Only selectors and calls of defined functions ask what the next level does. -/
theorem step_extends (frame : Frame)
    (hinside : ∀ frame body, Run.Extends even limit limit' (inside frame body) (inside' frame body))
    (stack : List Value) (i : Instruction) :
    Run.Extends even limit limit' (step scope inside frame stack i)
      (step scope inside' frame stack i) := by
  cases i with
  | operand o => exact Run.extends_refl _
  | operator op => cases op <;> exact Run.extends_refl _
  | selector body => exact (hinside frame body).bind fun v => Run.extends_refl _
  | index => exact Run.extends_refl _
  | call name count => exact callStep_extends name hinside count stack

theorem foldlM_step_extends (frame : Frame)
    (hinside : ∀ frame body, Run.Extends even limit limit' (inside frame body) (inside' frame body))
    (code : Code) (stack : List Value) :
    Run.Extends even limit limit' (code.foldlM (step scope inside frame) stack)
      (code.foldlM (step scope inside' frame) stack) := by
  induction code generalizing stack with
  | nil => exact Run.extends_refl _
  | cons i code ih =>
      rw [List.foldlM_cons, List.foldlM_cons]
      exact (step_extends frame hinside stack i).bind ih

theorem runWith_extends
    (hinside : ∀ frame body, Run.Extends even limit limit' (inside frame body) (inside' frame body))
    (frame : Frame) (code : Code) :
    Run.Extends even limit limit' (runWith scope inside frame code)
      (runWith scope inside' frame code) :=
  (foldlM_step_extends frame hinside code []).bind fun _ => Run.extends_refl _

/-! ## All levels -/

/-- A run under a larger budget extends one under a smaller budget. -/
theorem runWithin_extends (scope : Scope) (limit limit' : Nat) {budget budget' : Nat}
    (h : budget ≤ budget') (frame : Frame) (code : Code) :
    Run.Extends (budget = budget') limit limit' (runWithin scope limit budget frame code)
      (runWithin scope limit' budget' frame code) := by
  -- induction on the smaller budget; the two are cut off together only if both are used up
  induction budget generalizing budget' frame code with
  | zero =>
      cases budget' with
      | zero => exact runWith_extends (fun _ _ => Run.extends_throw) frame code
      | succ budget' =>
          exact runWith_extends (fun _ _ => Run.extends_throw_of_not nofun _) frame code
  | succ budget ih =>
      obtain ⟨rest, rfl⟩ := Nat.exists_eq_add_of_le h
      rw [show budget + 1 + rest = (budget + rest) + 1 by omega]
      refine runWith_extends (fun frame body => ?_) frame code
      exact (ih (Nat.le_add_right budget rest) frame body).mono fun heven => by omega

end Machine

/-- The budget only ever cuts off. With equal budgets two evaluations have the same outcome and
leave the same captures, unless the limit stops both; then each one reports its own limit, and the
captures they leave are the same all the same. What an evaluation gives that the limit does not
stop, value or fault, it gives with every larger budget, too, and leaves the same captures. -/
theorem Code.evaluate_budget (env : Environment) (frame : Frame) (code : Code)
    (limit depth limit' depth' : Nat) :
    (limit - depth = limit' - depth' →
      code.evaluate env limit' depth' frame = code.evaluate env limit depth frame ∨
      ∃ left, code.evaluate env limit depth frame = (.error (.recursionLimit limit), left) ∧
        code.evaluate env limit' depth' frame = (.error (.recursionLimit limit'), left)) ∧
    (limit - depth ≤ limit' - depth' →
      (∀ n, (code.evaluate env limit depth frame).1 ≠ .error (.recursionLimit n)) →
      code.evaluate env limit' depth' frame = code.evaluate env limit depth frame) := by
  have hextends : limit - depth ≤ limit' - depth' →
      code.evaluate env limit' depth' frame = code.evaluate env limit depth frame ∨
      ∃ left, code.evaluate env limit depth frame = (.error (.recursionLimit limit), left) ∧
        (limit - depth = limit' - depth' →
          code.evaluate env limit' depth' frame = (.error (.recursionLimit limit'), left)) :=
    fun h => Machine.runWithin_extends env.scope limit limit' h frame code env.captures
  constructor
  · intro heq
    rcases hextends (Nat.le_of_eq heq) with hsame | ⟨left, hcut, hcut'⟩
    · exact .inl hsame
    · exact .inr ⟨left, hcut, hcut' heq⟩
  · intro hle hne
    rcases hextends hle with hsame | ⟨left, hcut, -⟩
    · exact hsame
    · exact absurd (congrArg Prod.fst hcut) (hne limit)

end Reckon
