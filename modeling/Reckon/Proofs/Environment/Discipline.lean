/-
# Reckon.Proofs.Environment.Discipline — three kinds of names that never mix

A name with a value is a constant, a variable or a capture, and its spelling says which. Whatever a
host does with an environment, failing or not, constants keep their values, variables have names
that are no constants, and the captures are `$0`, `$1` and so on without a gap, all of them texts.
None of the three hides another, so what a name stands for can be read off its own kind alone.

Functions have a discipline of their own: no built-in function is hidden, and `if` is always there.
-/
import Reckon.Proofs.Session.Locality

namespace Reckon

/-! ## What a host can do with an environment -/

/-- A change that a host can ask for. The captures can be set and cleared directly, and any code
can be executed, at any depth and under any frame. -/
inductive Action where
  | setVariable (name : String) (v : Value)
  | setCaptures (groups : List String)
  | clearCaptures
  | define (name : String) (f : UserFunction)
  | register (name : String) (f : HostFunction)
  | execute (limit depth : Nat) (frame : Frame) (code : Code)

namespace Environment

/-- The environment with a new scope; with the old one, if the new one was refused. -/
def withScope (env : Environment) : Except Fault Scope → Environment
  | .ok scope => { env with scope }
  | .error _ => env

/-- The environment after an action, whether it went well or not. -/
def perform (env : Environment) : Action → Environment
  | .setVariable name v => env.withScope (env.scope.setVariable name v)
  | .setCaptures groups => env.setCaptures groups
  | .clearCaptures => env.clearCaptures
  | .define name f => env.withScope (env.scope.define name f)
  | .register name f => env.withScope (env.scope.register name f)
  | .execute limit depth frame code =>
    -- executing code touches nothing but the captures, and leaves them even if it fails
    { env with captures := (code.evaluate env limit depth frame).2 }

/-- The environment after actions. -/
def after (env : Environment) (actions : List Action) : Environment :=
  actions.foldl perform env

end Environment

/-! ## Scopes -/

/-- Variables are bound to names that are no constants, no function hides a built-in one, and the
host provides `if`. -/
structure Scope.Disciplined (scope : Scope) : Prop where
  bindings : ∀ name v, scope.bindings.get? name = some v →
    Text.isName name.toList = true ∧ isConstant name = false
  functions : ∀ name f, scope.functions.get? name = some f → Builtin.isName name = false
  hosts : ∀ name f, scope.hosts.get? name = some f → Builtin.isName name = false
  conditional : (scope.hosts.get? "if").isSome = true

namespace Scope.Disciplined

variable {scope scope' : Scope}

theorem initial : Scope.initial.Disciplined where
  bindings name v h := by cases h
  functions name f h := by cases h
  hosts name f h := by
    rw [Scope.initial, Table.get?_insert] at h
    split at h
    · rename_i hname
      rw [hname]
      decide
    · cases h
  conditional := by
    rw [Scope.initial, Table.get?_insert, if_pos rfl]
    rfl

theorem setVariable (hscope : scope.Disciplined) {name : String} {v : Value}
    (h : scope.setVariable name v = .ok scope') : scope'.Disciplined := by
  have hconstant : isConstant name = false := by
    rw [Scope.setVariable] at h
    split at h
    · cases h
    · rename_i hconstant
      exact Bool.eq_false_iff.2 hconstant
  obtain ⟨hname, rfl⟩ := Scope.eq_of_setVariable h
  refine { hscope with bindings := fun other w hother => ?_ }
  rw [Table.get?_insert] at hother
  split at hother
  · rename_i heq
    rw [heq]
    exact ⟨hname, hconstant⟩
  · exact hscope.bindings other w hother

theorem define (hscope : scope.Disciplined) {name : String} {f : UserFunction}
    (h : scope.define name f = .ok scope') : scope'.Disciplined := by
  rw [Scope.define] at h
  split at h
  · cases h
  · rename_i hbuiltin
    cases h
    refine { hscope with functions := fun other g hother => ?_ }
    rw [Table.get?_insert] at hother
    split at hother
    · rename_i heq
      rw [heq]
      exact Bool.eq_false_iff.2 hbuiltin
    · exact hscope.functions other g hother

theorem register (hscope : scope.Disciplined) {name : String} {f : HostFunction}
    (h : scope.register name f = .ok scope') : scope'.Disciplined := by
  have hbuiltin : Builtin.isName name = false := by
    rw [Scope.register] at h
    split at h
    · cases h
    · rename_i hbuiltin
      exact Bool.eq_false_iff.2 hbuiltin
  cases Scope.eq_of_register h
  refine { hscope with hosts := fun other g hother => ?_, conditional := ?_ }
  · rw [Table.get?_insert] at hother
    split at hother
    · rename_i heq
      rw [heq]
      exact hbuiltin
    · exact hscope.hosts other g hother
  · exact Table.isSome_get?_insert hscope.conditional name f

/-- What the name of a built-in function stands for is in neither table. -/
theorem get?_eq_none (h : scope.Disciplined) {name : String} (hname : Builtin.isName name = true) :
    scope.functions.get? name = none ∧ scope.hosts.get? name = none := by
  constructor
  · rw [Option.eq_none_iff_forall_ne_some]
    intro f hf
    rw [h.functions name f hf] at hname
    cases hname
  · rw [Option.eq_none_iff_forall_ne_some]
    intro f hf
    rw [h.hosts name f hf] at hname
    cases hname

theorem resolve_conditional (h : scope.Disciplined) : (scope.resolve? "if").isSome = true := by
  rw [Scope.resolve?]
  split
  · rfl
  · split
    · rfl
    · rw [Option.isSome_map, h.conditional]

theorem reserved (h : scope.Disciplined) : scope.Reserved := by
  intro i
  rw [Option.eq_none_iff_forall_ne_some]
  intro v hv
  have hname := (h.bindings _ v hv).1
  rw [Text.isName_captureName] at hname
  cases hname

end Scope.Disciplined

/-! ## Environments -/

namespace Environment

variable {env : Environment}

theorem withScope_disciplined (henv : env.scope.Disciplined) {result : Except Fault Scope}
    (h : ∀ scope, result = .ok scope → scope.Disciplined) :
    (env.withScope result).scope.Disciplined := by
  cases result with
  | ok scope => exact h scope rfl
  | error e => exact henv

/-- Every action keeps the discipline. -/
theorem perform_disciplined (henv : env.scope.Disciplined) (action : Action) :
    (env.perform action).scope.Disciplined := by
  cases action with
  | setVariable name v => exact withScope_disciplined henv fun _ h => henv.setVariable h
  | define name f => exact withScope_disciplined henv fun _ h => henv.define h
  | register name f => exact withScope_disciplined henv fun _ h => henv.register h
  | setCaptures groups => exact henv
  | clearCaptures => exact henv
  | execute limit depth frame code => exact henv

theorem after_disciplined (henv : env.scope.Disciplined) (actions : List Action) :
    (env.after actions).scope.Disciplined := by
  induction actions generalizing env with
  | nil => exact henv
  | cons action actions ih => exact ih (perform_disciplined henv action)

end Environment

/-! ## Captures -/

theorem captureName_injective {i j : Nat} (h : captureName i = captureName j) : i = j := by
  have hdigits : Nat.toDigits 10 i = Nat.toDigits 10 j := by
    have hchars := congrArg String.toList h
    rw [captureName_toList, captureName_toList, List.cons_inj_right] at hchars
    simpa only [Nat.toString_eq_repr, Nat.toList_repr] using hchars
  calc
    i = Nat.ofDigitChars 10 (Nat.toDigits 10 i) 0 := Nat.ofDigitChars_ten_toDigits.symm
    _ = Nat.ofDigitChars 10 (Nat.toDigits 10 j) 0 := by rw [hdigits]
    _ = j := Nat.ofDigitChars_ten_toDigits

theorem lookupCapture?_of_lt {i first : Nat} (h : i < first) (captures : Captures) :
    lookupCapture? (captureName i) first captures = none := by
  induction captures generalizing first with
  | nil => rfl
  | cons s rest ih =>
      have hne : captureName i ≠ captureName first := fun heq =>
        h.ne (captureName_injective heq)
      rw [lookupCapture?, if_neg hne, ih (Nat.lt_succ_of_lt h)]

/-- Captures are looked up by their places. -/
theorem lookupCapture?_captureName (captures : Captures) (first i : Nat) :
    lookupCapture? (captureName (first + i)) first captures = captures[i]? := by
  induction captures generalizing first i with
  | nil => rfl
  | cons s rest ih =>
      rw [lookupCapture?]
      cases i with
      | zero => rw [Nat.add_zero, if_pos rfl, List.getElem?_cons_zero]
      | succ i =>
          have hne : captureName (first + (i + 1)) ≠ captureName first := fun h => by
            have := captureName_injective h
            omega
          rw [if_neg hne, List.getElem?_cons_succ, ← ih (first + 1) i]
          congr 2
          omega

namespace Environment

variable {env : Environment}

/-- Where names are disciplined a capture has the text in its place. -/
theorem value?_captureName (henv : env.scope.Disciplined) (i : Nat) :
    env.value? (captureName i) = env.captures[i]?.map .text := by
  have hlookup := lookupCapture?_captureName env.captures 0 i
  rw [Nat.zero_add] at hlookup
  rw [value?, henv.reserved.value?_captureName, hlookup]

/-- Where names are disciplined, what has a value is a constant, a variable or a capture, and no
kind hides another. -/
theorem value?_eq_some_iff (henv : env.scope.Disciplined) {name : String} {v : Value} :
    env.value? name = some v ↔
      constants.lookup name = some v ∨
      (Text.isName name.toList = true ∧ isConstant name = false ∧
        env.scope.bindings.get? name = some v) ∨
      ∃ i s, name = captureName i ∧ env.captures[i]? = some s ∧ v = .text s := by
  constructor
  · intro h
    by_cases hcapture : ∃ i, name = captureName i
    · obtain ⟨i, rfl⟩ := hcapture
      rw [value?_captureName henv] at h
      obtain ⟨s, hs, rfl⟩ := Option.map_eq_some_iff.1 h
      exact .inr (.inr ⟨i, s, rfl, hs, rfl⟩)
    · rw [value?, Scope.value?, lookupCapture?_of_ne fun i hi => hcapture ⟨i, hi⟩] at h
      split at h
      · rename_i hconstant
        exact .inl (hconstant.trans h)
      · split at h
        · rename_i hbound
          have hname := henv.bindings name _ hbound
          exact .inr (.inl ⟨hname.1, hname.2, hbound.trans h⟩)
        · cases h
  · rintro (hconstant | ⟨-, hconstant, hbound⟩ | ⟨i, s, rfl, hs, rfl⟩)
    · rw [value?, Scope.value?, hconstant]
    · have hlookup : constants.lookup name = none := by
        simpa [isConstant] using hconstant
      rw [value?, Scope.value?, hlookup, hbound]
    · rw [value?_captureName henv, hs, Option.map_some]

/-- The captures are those of a list of texts: one for every text, by its place, and no other name
with the sign of captures has a value. -/
def HasCaptures (env : Environment) (groups : List String) : Prop :=
  (∀ i, env.value? (captureName i) = groups[i]?.map .text) ∧
    ∀ name, IsCaptureName name → (env.value? name).isSome = true →
      ∃ i, i < groups.length ∧ name = captureName i

theorem hasCaptures (henv : env.scope.Disciplined) : env.HasCaptures env.captures := by
  refine ⟨value?_captureName henv, fun name hsign hvalue => ?_⟩
  obtain ⟨v, hv⟩ := Option.isSome_iff_exists.1 hvalue
  rcases (value?_eq_some_iff henv).1 hv with hconstant | ⟨hname, -, -⟩ | ⟨i, s, rfl, hs, -⟩
  · -- neither of the two constants starts with the sign
    obtain ⟨before, rest, hlist, -⟩ := List.lookup_eq_some_iff.1 hconstant
    have hall : ∀ p ∈ constants, p.1.toList.head? ≠ some '$' := by decide
    exact absurd hsign (hall (name, v) (hlist ▸ List.mem_append_right _ List.mem_cons_self))
  · rw [IsCaptureName] at hsign
    cases hchars : name.toList with
    | nil =>
        rw [hchars] at hsign
        cases hsign
    | cons c cs =>
        rw [hchars] at hsign hname
        cases hsign
        cases hname
  · exact ⟨i, (List.getElem?_eq_some_iff.1 hs).1, rfl⟩

end Environment

end Reckon
