/-
# Reckon.Proofs.Evaluation.Locality — what an evaluation depends on

Two runs of the same code, with different variables, functions, captures and arguments, have the
same outcome if the names that the code reads stand for the same values in both and the functions
that it reaches are the same. What other names stand for makes no difference, and neither does
anything that a function body could read and is no parameter of it, since there is nothing.

Captures need some care. The two runs may start with different ones, and a match gives both the
same: so the captures are *linked*, which means that both are still as they were at the start or
that they have become the same. A name of a capture must be bound by both frames or by none: if
one run finds it in its frame and the other one among its captures, then a match comes between
them.
-/
import Reckon.Proofs.Code.Parts
import Reckon.Proofs.Evaluation.Faults

namespace Reckon

/-! ## Two runs -/

/-- The captures of two runs are those at the start, or they have become the same. -/
def Captures.Linked (start start' c c' : Captures) : Prop :=
  (c = start ∧ c' = start') ∨ c = c'

open Captures (Linked)

namespace Run

variable {α β : Type} {start start' : Captures}

/-- From linked captures two runs have the same outcome, and leave linked captures. -/
def Agree (start start' : Captures) (x x' : Run α) : Prop :=
  ∀ c c', Linked start start' c c' →
    (x.run c).1 = (x'.run c').1 ∧ Linked start start' (x.run c).2 (x'.run c').2

theorem agree_lift (x : Except Fault α) :
    Agree start start' (Machine.lift x) (Machine.lift x) :=
  fun _ _ h => ⟨rfl, h⟩

theorem agree_pure (a : α) : Agree start start' (pure a) (pure a) :=
  agree_lift (.ok a)

theorem agree_throw (e : Fault) : Agree start start' (throw e : Run α) (throw e) :=
  agree_lift (.error e)

theorem Agree.bind {x x' : Run α} {f f' : α → Run β} (hx : Agree start start' x x')
    (hf : ∀ a, Agree start start' (f a) (f' a)) : Agree start start' (x >>= f) (x' >>= f') := by
  intro c c' hlinked
  obtain ⟨houtcome, hleft⟩ := hx c c' hlinked
  rcases hrun : x.run c with ⟨outcome, left⟩
  rcases hrun' : x'.run c' with ⟨outcome', left'⟩
  rw [hrun, hrun'] at houtcome hleft
  cases houtcome
  cases outcome with
  | error e =>
      rw [run_bind_of_error hrun, run_bind_of_error hrun']
      exact ⟨rfl, hleft⟩
  | ok a =>
      rw [run_bind_of_ok hrun, run_bind_of_ok hrun']
      exact hf a left left' hleft

end Run

/-! ## Names -/

/-- What a name stands for where a frame has been put over a scope: an argument first. -/
def Scope.lookup? (scope : Scope) (captures : Captures) (frame : Frame) (name : String) :
    Option Value :=
  (frame.get? name).or (scope.value? captures name)

/-- No variable has the name of a capture. -/
def Scope.Reserved (scope : Scope) : Prop :=
  ∀ i, scope.bindings.get? (captureName i) = none

theorem captureName_toList (i : Nat) : (captureName i).toList = '$' :: (toString i).toList := by
  rw [captureName, String.toList_append]
  rfl

theorem lookup_constants_captureName (i : Nat) : constants.lookup (captureName i) = none := by
  have hne : ∀ name : String, name.toList.head? ≠ some '$' → captureName i ≠ name := by
    rintro name hname rfl
    rw [captureName_toList] at hname
    exact hname rfl
  rw [constants, Entries.lookup_cons_of_ne (hne "pi" (by decide)),
    Entries.lookup_cons_of_ne (hne "e" (by decide))]
  rfl

/-- A name that is none of a capture stands for the same whatever the captures are. -/
theorem lookupCapture?_of_ne {name : String} (h : ∀ i, name ≠ captureName i)
    (captures : Captures) (i : Nat) : lookupCapture? name i captures = none := by
  induction captures generalizing i with
  | nil => rfl
  | cons s rest ih => rw [lookupCapture?, if_neg (h i), ih]

theorem Scope.value?_of_ne (scope : Scope) {name : String} (h : ∀ i, name ≠ captureName i)
    (c c' : Captures) : scope.value? c name = scope.value? c' name := by
  rw [value?, value?, lookupCapture?_of_ne h, lookupCapture?_of_ne h]

/-- Whether a name starts with the sign of captures. -/
def IsCaptureName (name : String) : Prop :=
  name.toList.head? = some '$'

/-- Captures are what only names with this sign stand for. -/
theorem Scope.value?_of_not_isCaptureName (scope : Scope) {name : String}
    (h : ¬ IsCaptureName name) (c c' : Captures) : scope.value? c name = scope.value? c' name := by
  refine scope.value?_of_ne (fun i heq => h ?_) c c'
  rw [heq, IsCaptureName, captureName_toList]
  rfl

/-- What the name of a capture stands for is decided by the captures alone. -/
theorem Scope.Reserved.value?_captureName {scope : Scope} (h : scope.Reserved) (i : Nat)
    (captures : Captures) :
    scope.value? captures (captureName i)
      = (lookupCapture? (captureName i) 0 captures).map .text := by
  rw [value?, lookup_constants_captureName, h i]

/-- Names that stand for the same at the start stand for the same as long as the captures are
linked, if no frame hides a capture that the other one shows. -/
theorem Scope.lookup?_of_linked {scope scope' : Scope} (hscope : scope.Reserved)
    (hscope' : scope'.Reserved) {start start' : Captures} {frame frame' : Frame} {name : String}
    (hname : scope.lookup? start frame name = scope'.lookup? start' frame' name)
    (hcapture : ∀ i, name = captureName i →
      (frame.get? name).isSome = (frame'.get? name).isSome) :
    ∀ c c', Linked start start' c c' →
      scope.lookup? c frame name = scope'.lookup? c' frame' name := by
  rintro c c' (⟨rfl, rfl⟩ | rfl)
  · exact hname
  · -- the captures have become the same: a name of one that no frame binds is looked up in them
    by_cases hcap : ∃ i, name = captureName i
    · obtain ⟨i, rfl⟩ := hcap
      have hbound := hcapture i rfl
      rw [lookup?, lookup?] at hname ⊢
      rcases hframe : frame.get? (captureName i) with _ | v
      · rcases hframe' : frame'.get? (captureName i) with _ | v'
        · rw [hscope.value?_captureName, hscope'.value?_captureName]
        · rw [hframe, hframe'] at hbound
          cases hbound
      · rcases hframe' : frame'.get? (captureName i) with _ | v'
        · rw [hframe, hframe'] at hbound
          cases hbound
        · rw [hframe, hframe'] at hname
          exact hname
    · have hne : ∀ i, name ≠ captureName i := fun i h => hcap ⟨i, h⟩
      rw [lookup?, lookup?] at hname ⊢
      rw [scope.value?_of_ne hne c start, scope'.value?_of_ne hne c start', hname]

/-! ## What code reaches -/

/-- `code.Reaches scope name`: the code calls the function, or a body that it reaches does. -/
inductive Code.Reaches (scope : Scope) (code : Code) : String → Prop
  | call {name : String} : code.Calls name → Reaches scope code name
  | body {name other : String} {f : UserFunction} : Reaches scope code name →
      scope.resolve? name = some (.user f) → f.body.Calls other → Reaches scope code other

namespace Code

theorem Reaches.of_calls {scope : Scope} {code wider : Code} {name : String}
    (h : code.Reaches scope name) (hcalls : ∀ other, code.Calls other → wider.Reaches scope other) :
    wider.Reaches scope name := by
  induction h with
  | call h => exact hcalls _ h
  | body _ hname h ih => exact .body ih hname h

theorem parts_of_mem {code : Code} {i j : Instruction} (hi : i ∈ code) (hj : j ∈ i.parts) :
    j ∈ parts code := by
  induction code with
  | nil => cases hi
  | cons k code ih =>
      rw [parts]
      rcases List.mem_cons.1 hi with rfl | hi
      · exact List.mem_append_left _ hj
      · exact List.mem_append_right _ (ih hi)

end Code

/-! ## The machine -/

namespace Machine

variable {start start' : Captures} {scope scope' : Scope} {frame frame' : Frame}
variable {inside inside' : Frame → Code → Run Value}

theorem loadOutcome_identifier (scope : Scope) (frame : Frame) (captures : Captures)
    (name : String) :
    loadOutcome scope frame captures (.identifier name)
      = match scope.lookup? captures frame name with
        | some v => .ok v
        | none => .error (.undefinedVariable name) := by
  rw [loadOutcome, Scope.lookup?]
  cases frame.get? name with
  | some v => rfl
  | none => rfl

theorem load_agree {o : Operand} (h : ∀ name, o = .identifier name → ∀ c c',
      Linked start start' c c' → scope.lookup? c frame name = scope'.lookup? c' frame' name) :
    Run.Agree start start' (load scope frame o) (load scope' frame' o) := by
  intro c c' hlinked
  rw [load_run, load_run]
  refine ⟨?_, hlinked⟩
  show loadOutcome scope frame c o = loadOutcome scope' frame' c' o
  cases o with
  | identifier name =>
      rw [loadOutcome_identifier, loadOutcome_identifier, h name rfl c c' hlinked]
  | _ => rfl

/-- A match gives both runs the same captures, or leaves them alone in both. -/
theorem matchPattern_agree (subject pattern : Value) :
    Run.Agree start start' (matchPattern subject pattern) (matchPattern subject pattern) := by
  intro c c' hlinked
  rw [matchPattern_run, matchPattern_run]
  refine ⟨rfl, ?_⟩
  cases (matchOutcome subject pattern).2 with
  | none => exact hlinked
  | some captures => exact .inr rfl

theorem binary_agree (op : Operator) (a b : Value) :
    Run.Agree start start' (binary op a b) (binary op a b) := by
  cases op with
  | matching => exact matchPattern_agree a b
  | equal => exact Run.agree_pure _
  | notEqual => exact Run.agree_pure _
  | and => exact Run.agree_pure _
  | or => exact Run.agree_pure _
  | negate => exact Run.agree_throw _
  | not => exact Run.agree_throw _
  | _ => exact Run.agree_lift _

theorem length_takeArguments {count : Nat} {stack args rest : List Value}
    (h : takeArguments count stack = .ok (args, rest)) : args.length = count := by
  obtain ⟨hcount, rfl, -⟩ := takeArguments_eq_ok h
  rw [List.length_reverse, List.length_take]
  omega

theorem callStep_agree {name : String} (hname : scope.resolve? name = scope'.resolve? name)
    (hbody : ∀ f args, scope.resolve? name = some (.user f) → args.length = f.arity →
      Run.Agree start start' (inside (f.frame args) f.body) (inside' (f.frame args) f.body))
    (count : Nat) (stack : List Value) :
    Run.Agree start start' (callStep scope inside name count stack)
      (callStep scope' inside' name count stack) := by
  rw [callStep, callStep, ← hname]
  -- both runs call the same function, and take the same arguments off the same stack
  cases hcallee : scope.resolve? name with
  | none => exact Run.agree_throw _
  | some callee =>
      dsimp only
      by_cases harity : count ≠ callee.arity
      · rw [if_pos harity, if_pos harity]
        exact Run.agree_throw _
      · rw [if_neg harity, if_neg harity]
        cases htake : takeArguments count stack with
        | error e => exact Run.agree_throw e
        | ok taken =>
            obtain ⟨args, rest⟩ := taken
            have hargs : args.length = callee.arity :=
              (length_takeArguments htake).trans (Decidable.not_not.1 harity)
            have hlift : lift (.ok (args, rest)) = (pure (args, rest) : Run _) := rfl
            rw [hlift, pure_bind, pure_bind]
            refine Run.Agree.bind ?_ fun v => Run.agree_pure _
            cases callee with
            | builtin => exact Run.agree_lift _
            | host f => exact Run.agree_lift _
            | user f => exact hbody f args hcallee hargs

/-- How the names that code reads and the functions that it reaches are the same in both runs. -/
structure Alike (start start' : Captures) (scope scope' : Scope) (frame frame' : Frame)
    (code : Code) : Prop where
  names : ∀ name, code.Reads name → ∀ c c', Linked start start' c c' →
    scope.lookup? c frame name = scope'.lookup? c' frame' name
  functions : ∀ name, code.Reaches scope name → scope.resolve? name = scope'.resolve? name

/-- What code is alike for, its parts are alike for. -/
theorem Alike.of_parts {code part : Code} (h : Alike start start' scope scope' frame frame' code)
    (hparts : ∀ i, i ∈ Code.parts part → i ∈ Code.parts code) :
    Alike start start' scope scope' frame frame' part where
  names name hreads := h.names name (hparts _ hreads)
  functions name hreaches := by
    refine h.functions name (hreaches.of_calls fun other hcalls => .call ?_)
    obtain ⟨count, hmem⟩ := hcalls
    exact ⟨count, hparts _ hmem⟩

/-- The body of a function that code reaches reads nothing but the arguments, which are the same
in both runs. -/
theorem Alike.of_closed {code : Code} {name : String} {f : UserFunction} {args : List Value}
    (h : Alike start start' scope scope' frame frame' code) (hname : code.Reaches scope name)
    (hf : scope.resolve? name = some (.user f)) (hclosed : f.Closed)
    (hargs : args.length = f.arity) :
    Alike start start' scope scope' (f.frame args) (f.frame args) f.body where
  names x hreads c c' _ := by
    have hbound := f.isSome_get?_frame args (hclosed x hreads) hargs
    obtain ⟨v, hv⟩ := Option.isSome_iff_exists.1 hbound
    rw [Scope.lookup?, Scope.lookup?, hv]
    rfl
  functions other hreaches := by
    apply h.functions other
    exact hreaches.of_calls fun called hcalls => .body hname hf hcalls

/-- One instruction does the same in two runs that are alike, if the next levels do. -/
theorem step_agree {i : Instruction}
    (halike : Alike start start' scope scope' frame frame' [i])
    (hclosed : ∀ name f, scope.resolve? name = some (.user f) → f.Closed)
    (hinside : ∀ frame frame' code, Alike start start' scope scope' frame frame' code →
      Run.Agree start start' (inside frame code) (inside' frame' code)) (stack : List Value) :
    Run.Agree start start' (step scope inside frame stack i)
      (step scope' inside' frame' stack i) := by
  cases i with
  | operand o =>
      refine Run.Agree.bind (load_agree fun name ho => ?_) fun v => Run.agree_pure _
      subst ho
      exact halike.names name (List.mem_singleton.2 rfl)
  | operator op =>
      -- whether an operand is missing is seen on the stack, which is the same in both
      rcases stack with _ | ⟨b, _ | ⟨a, stack⟩⟩
      · cases op <;> exact Run.agree_throw _
      · cases op with
        | negate => exact (Run.agree_lift _).bind fun v => Run.agree_pure _
        | not => exact Run.agree_pure _
        | _ => exact Run.agree_throw _
      · cases op with
        | negate => exact (Run.agree_lift _).bind fun v => Run.agree_pure _
        | not => exact Run.agree_pure _
        | _ => exact (binary_agree _ a b).bind fun v => Run.agree_pure _
  | selector body =>
      refine (hinside frame frame' body (halike.of_parts fun i hi => ?_)).bind fun v =>
        Run.agree_pure _
      exact Code.mem_parts_singleton.2 (List.mem_cons_of_mem _ hi)
  | index =>
      rcases stack with _ | ⟨selector, _ | ⟨target, stack⟩⟩
      · exact Run.agree_throw _
      · exact Run.agree_throw _
      · exact (Run.agree_lift _).bind fun v => Run.agree_pure _
  | call name count =>
      have hreaches : Code.Reaches scope [.call name count] name :=
        .call ⟨count, List.mem_singleton.2 rfl⟩
      refine callStep_agree (halike.functions name hreaches) (fun f args hf hargs => ?_) count stack
      exact hinside _ _ _ (halike.of_closed hreaches hf (hclosed name f hf) hargs)

theorem foldlM_step_agree {code : Code}
    (hstep : ∀ i ∈ code, ∀ stack, Run.Agree start start' (step scope inside frame stack i)
      (step scope' inside' frame' stack i)) (stack : List Value) :
    Run.Agree start start' (code.foldlM (step scope inside frame) stack)
      (code.foldlM (step scope' inside' frame') stack) := by
  induction code generalizing stack with
  | nil => exact Run.agree_pure stack
  | cons i code ih =>
      rw [List.foldlM_cons, List.foldlM_cons]
      apply (hstep i List.mem_cons_self stack).bind
      intro stack'
      exact ih (fun j hj => hstep j (List.mem_cons_of_mem _ hj)) stack'

/-- One level does the same in two runs that are alike, if the next levels do. -/
theorem runWith_agree {code : Code}
    (halike : Alike start start' scope scope' frame frame' code)
    (hclosed : ∀ name f, scope.resolve? name = some (.user f) → f.Closed)
    (hinside : ∀ frame frame' code, Alike start start' scope scope' frame frame' code →
      Run.Agree start start' (inside frame code) (inside' frame' code)) :
    Run.Agree start start' (runWith scope inside frame code)
      (runWith scope' inside' frame' code) := by
  refine Run.Agree.bind (foldlM_step_agree (fun i hi stack => ?_) []) fun stack =>
    Run.agree_lift _
  refine step_agree (halike.of_parts fun j hj => ?_) hclosed hinside stack
  exact Code.parts_of_mem hi (Code.mem_parts_singleton.1 hj)

/-- Two runs that are alike agree, at every level. -/
theorem runWithin_agree (hclosed : ∀ name f, scope.resolve? name = some (.user f) → f.Closed)
    (limit budget : Nat) :
    ∀ frame frame' code, Alike start start' scope scope' frame frame' code →
      Run.Agree start start' (runWithin scope limit budget frame code)
        (runWithin scope' limit budget frame' code) := by
  induction budget with
  | zero =>
      intro frame frame' code halike
      exact runWith_agree halike hclosed fun _ _ _ _ => Run.agree_throw _
  | succ budget ih =>
      intro frame frame' code halike
      exact runWith_agree halike hclosed ih

end Machine

end Reckon
