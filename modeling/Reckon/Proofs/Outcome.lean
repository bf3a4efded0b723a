/-
# Reckon.Proofs.Outcome — taking results apart

A result is a value or the first fault on the way to it. These lemmas take a result that is
known to be a value, or a fault, apart into the steps that gave it.

What faults a result can be is said by `Outcome.Raises`; if all steps raise only certain faults,
so does their result. Some faults are *defects*: they say that the library contradicts itself.
-/
import Reckon.Fault

namespace Reckon.Outcome

variable {ε α β : Type}

/-- Results can be told apart if values and faults can. -/
instance decidableEq [DecidableEq ε] [DecidableEq α] : DecidableEq (Except ε α)
  | .ok a, .ok b => decidable_of_iff (a = b) ⟨congrArg _, Except.ok.inj⟩
  | .error e, .error f => decidable_of_iff (e = f) ⟨congrArg _, Except.error.inj⟩
  | .ok _, .error _ => isFalse nofun
  | .error _, .ok _ => isFalse nofun

/-- A result that is known to be no fault is a value. -/
theorem exists_of_toBool {x : Except ε α} (h : x.toBool = true) : ∃ a, x = .ok a := by
  cases x with
  | error e => cases h
  | ok a => exact ⟨a, rfl⟩

theorem map_eq_ok_iff {x : Except ε α} {f : α → β} {b : β} :
    x.map f = .ok b ↔ ∃ a, x = .ok a ∧ f a = b := by
  constructor
  · intro h
    cases x with
    | error e => cases h
    | ok a => exact ⟨a, rfl, Except.ok.inj h⟩
  · rintro ⟨a, rfl, rfl⟩
    rfl

theorem map_map {γ : Type} (x : Except ε α) (f : α → β) (g : β → γ) :
    (x.map f).map g = x.map fun a => g (f a) := by
  cases x with
  | error e => rfl
  | ok a => rfl

theorem bind_eq_ok_iff {x : Except ε α} {f : α → Except ε β} {b : β} :
    x >>= f = .ok b ↔ ∃ a, x = .ok a ∧ f a = .ok b := by
  constructor
  · intro h
    cases x with
    | error e => cases h
    | ok a => exact ⟨a, rfl, h⟩
  · rintro ⟨a, rfl, h⟩
    exact h

end Reckon.Outcome

namespace Reckon

/-- Faults that only a defect of the library causes: contradictions, and calls of functions that
there were when the calls were converted. -/
def Fault.isDefect : Fault → Bool
  | inconsistent _ | undefinedFunction _ => true
  | _ => false

namespace Outcome

variable {α β : Type} {allowed wider : Fault → Prop}

/-- If the result is a fault, it is one of those allowed. -/
def Raises (allowed : Fault → Prop) (x : Except Fault α) : Prop :=
  ∀ e, x = .error e → allowed e

/-- The result is no defect. -/
abbrev Clean (x : Except Fault α) : Prop :=
  Raises (fun e => e.isDefect = false) x

theorem raises_ok (a : α) : Raises allowed (.ok a : Except Fault α) := by
  intro e h
  cases h

theorem raises_error {e : Fault} (h : allowed e) : Raises allowed (.error e : Except Fault α) := by
  intro e' h'
  cases h'
  exact h

theorem Raises.mono {x : Except Fault α} (hx : Raises allowed x)
    (h : ∀ e, allowed e → wider e) : Raises wider x := by
  intro e he
  exact h e (hx e he)

theorem Raises.bind {x : Except Fault α} {f : α → Except Fault β} (hx : Raises allowed x)
    (hf : ∀ a, x = .ok a → Raises allowed (f a)) : Raises allowed (x >>= f) := by
  cases x with
  | error e => exact raises_error (hx e rfl)
  | ok a => exact hf a rfl

theorem Raises.map {x : Except Fault α} (hx : Raises allowed x) (f : α → β) :
    Raises allowed (x.map f) := by
  cases x with
  | error e => exact raises_error (hx e rfl)
  | ok a => exact raises_ok (f a)

end Outcome

end Reckon
