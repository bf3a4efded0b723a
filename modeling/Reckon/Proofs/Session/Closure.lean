/-
# Reckon.Proofs.Session.Closure — freezing keeps what a body means

When a function has just been defined, its frozen body does the same as the body as it was
converted, in every frame that binds no names but parameters: wherever the body reads a variable,
the frozen body has the value that the variable still has. An evaluation binds nothing but
captures, so it has this value all through the run, whatever is matched or called in between.
Captures themselves are the exception, and bodies that read them are left out here.
-/
import Reckon.Proofs.Session.Frame

namespace Reckon

variable {env : Environment} {scope : Scope} {parameters : List String} {frame : Frame}

/-! ## Runs of frozen code -/

namespace Machine

/-- A frame has no names but parameters, and variables stand in a scope for what they stood for
when the code was frozen. -/
structure Frozen (env : Environment) (parameters : List String) (scope : Scope)
    (frame : Frame) : Prop where
  arguments : ∀ name, (frame.get? name).isSome = true → name ∈ parameters
  values : ∀ name, ¬ IsCaptureName name → ∀ captures,
    scope.value? captures name = env.value? name

/-- The value that a name had is loaded as the name itself is. -/
theorem Frozen.load_value (h : Frozen env parameters scope frame) {name : String} {v : Value}
    (hname : name ∉ parameters) (hcapture : ¬ IsCaptureName name)
    (hv : env.value? name = some v) :
    load scope frame (.value v) = load scope frame (.identifier name) := by
  have hframe : frame.get? name = none := by
    by_contra hsome
    exact hname (h.arguments name (Option.isSome_iff_ne_none.2 hsome))
  funext captures
  have hvalue : scope.value? captures name = some v :=
    (h.values name hcapture captures).trans hv
  show (load scope frame (.value v)).run captures
    = (load scope frame (.identifier name)).run captures
  rw [load_run, load_run, loadOutcome, loadOutcome, hframe]
  dsimp only
  rw [hvalue]

/-- A frozen instruction does what the instruction did, if the contents of selectors do. -/
theorem step_frozen (h : Frozen env parameters scope frame) {inside : Frame → Code → Run Value}
    (hinside : ∀ code frozen, (∀ name, Code.Reads code name → ¬ IsCaptureName name) →
      Code.freeze env parameters code = .ok frozen → inside frame frozen = inside frame code)
    {i j : Instruction} (hreads : ∀ name, .operand (.identifier name) ∈ i.parts →
      ¬ IsCaptureName name) (hfreeze : i.freeze env parameters = .ok j) (stack : List Value) :
    step scope inside frame stack j = step scope inside frame stack i := by
  cases i with
  | operand o =>
      cases o with
      | identifier name =>
          have hcapture : ¬ IsCaptureName name := hreads name (List.mem_singleton_self _)
          rw [Instruction.freeze] at hfreeze
          split at hfreeze
          · cases hfreeze
            rfl
          · rename_i hparameter
            split at hfreeze
            · rename_i v hv
              cases hfreeze
              have hname : name ∉ parameters := fun hmem =>
                hparameter (List.contains_iff_mem.2 hmem)
              rw [step, step, h.load_value hname hcapture hv]
            · cases hfreeze
      | _ =>
          cases hfreeze
          rfl
  | selector body =>
      obtain ⟨frozen, hfrozen, rfl⟩ := Instruction.freeze_selector_iff.1 hfreeze
      have hbody : inside frame frozen = inside frame body :=
        hinside body frozen (fun name hread => hreads name (List.mem_cons_of_mem _ hread)) hfrozen
      rw [step, step, hbody]
  | _ =>
      cases hfreeze
      rfl

theorem foldlM_step_frozen (h : Frozen env parameters scope frame)
    {inside : Frame → Code → Run Value}
    (hinside : ∀ code frozen, (∀ name, Code.Reads code name → ¬ IsCaptureName name) →
      Code.freeze env parameters code = .ok frozen → inside frame frozen = inside frame code)
    {code frozen : Code} (hreads : ∀ name, code.Reads name → ¬ IsCaptureName name)
    (hfreeze : Code.freeze env parameters code = .ok frozen) (stack : List Value) :
    frozen.foldlM (step scope inside frame) stack
      = code.foldlM (step scope inside frame) stack := by
  induction code generalizing frozen stack with
  | nil =>
      cases hfreeze
      rfl
  | cons i code ih =>
      obtain ⟨j, rest, hj, hrest, rfl⟩ := Code.freeze_cons_iff.1 hfreeze
      rw [List.foldlM_cons, List.foldlM_cons,
        step_frozen h hinside (fun name hmem => hreads name (List.mem_append_left _ hmem)) hj]
      congr 1
      funext stack'
      exact ih (fun name hmem => hreads name (List.mem_append_right _ hmem)) hrest stack'

/-- Frozen code runs as the code did, at every level of nesting. -/
theorem runWithin_frozen (h : Frozen env parameters scope frame) (limit budget : Nat) :
    ∀ code frozen, (∀ name, Code.Reads code name → ¬ IsCaptureName name) →
      Code.freeze env parameters code = .ok frozen →
      runWithin scope limit budget frame frozen = runWithin scope limit budget frame code := by
  induction budget with
  | zero =>
      intro code frozen hreads hfreeze
      rw [runWithin, runWith, runWith, foldlM_step_frozen h (fun _ _ _ _ => rfl) hreads hfreeze]
  | succ budget ih =>
      intro code frozen hreads hfreeze
      rw [runWithin, runWith, runWith, foldlM_step_frozen h ih hreads hfreeze]

end Machine

/-! ## Definitions -/

namespace Session

variable {s : Session}

/-- The function that a definition has stored, and the code that its body was converted to. -/
theorem exists_frozen_of_evaluate {source name body : String} {v : Value}
    (hkind : Statement.classify (Statement.prepare source.toList)
      = .definition name parameters body)
    (hok : (s.evaluate source).1 = .ok v) :
    ∃ code frozen, s.convert body = .ok code ∧
      Code.freeze s.environment parameters code = .ok frozen ∧
      s.environment.Defines name ⟨parameters, frozen⟩ (s.evaluate source).2.environment := by
  have hpermits := s.permits_runStatement source
  rw [hkind, ← evaluate_fst, ← environment_evaluate, hok] at hpermits
  obtain ⟨f, hf, hdefines⟩ := hpermits
  obtain ⟨code, hcode, hclosure⟩ := Outcome.bind_eq_ok_iff.1 hf
  obtain ⟨frozen, hfrozen, heq⟩ := Outcome.bind_eq_ok_iff.1 hclosure
  cases heq
  exact ⟨code, frozen, hcode, hfrozen, hdefines⟩

/-- The body of a function that has just been defined does what the body did as it was
converted, provided that it reads no captures. -/
theorem evaluate_closure {source name body : String} {v : Value}
    (hkind : Statement.classify (Statement.prepare source.toList)
      = .definition name parameters body)
    (hok : (s.evaluate source).1 = .ok v) :
    ∃ code f, s.convert body = .ok code ∧
      (s.evaluate source).2.environment.scope.functions.get? name = some f ∧
      f.parameters = parameters ∧
      ((∀ x, code.Reads x → ¬ IsCaptureName x) →
        ∀ frame : Frame, (∀ x, (frame.get? x).isSome = true → x ∈ parameters) →
        ∀ limit depth,
          f.body.evaluate (s.evaluate source).2.environment limit depth frame
            = code.evaluate (s.evaluate source).2.environment limit depth frame) := by
  obtain ⟨code, frozen, hcode, hfrozen, hdefines⟩ := exists_frozen_of_evaluate hkind hok
  refine ⟨code, ⟨parameters, frozen⟩, hcode, ?_, rfl, ?_⟩
  · rw [hdefines.functions, Table.get?_insert, if_pos rfl]
  · intro hreads frame hframe limit depth
    have hstands : Machine.Frozen s.environment parameters
        (s.evaluate source).2.environment.scope frame := by
      refine ⟨hframe, fun x hx captures => ?_⟩
      rw [hdefines.value?_eq]
      exact s.environment.scope.value?_of_not_isCaptureName hx _ _
    rw [Code.evaluate, Code.evaluate, Code.run, Code.run,
      Machine.runWithin_frozen hstands _ _ code frozen hreads hfrozen]

/-- A body with a variable and a parameter in a selector. -/
theorem evaluate_closure_selector :
    ∃ code f, convert {} "[[true]][x - e][pi - pi]" = .ok code ∧
      (evaluate {} "f(x) = [[true]][x - e][pi - pi]").2.environment.scope.functions.get? "f"
        = some f ∧
      f.parameters = ["x"] ∧ (∀ x, code.Reads x → ¬ IsCaptureName x) ∧
      ∀ v limit depth,
        let env := (evaluate {} "f(x) = [[true]][x - e][pi - pi]").2.environment
        f.body.evaluate env limit depth (Table.empty.insert "x" v)
          = code.evaluate env limit depth (Table.empty.insert "x" v) := by
  have hkind : Statement.classify
      (Statement.prepare "f(x) = [[true]][x - e][pi - pi]".toList)
      = .definition "f" ["x"] "[[true]][x - e][pi - pi]" := by
    decide +kernel
  have hok : (evaluate {} "f(x) = [[true]][x - e][pi - pi]").1.toBool = true := by
    decide +kernel
  have hnames : ((convert {} "[[true]][x - e][pi - pi]").toOption.all fun code =>
      code.names.all fun x => x.toList.head? != some '$') = true := by
    decide +kernel
  obtain ⟨v, hv⟩ := Outcome.exists_of_toBool hok
  obtain ⟨code, f, hcode, hf, hparameters, hmeaning⟩ := evaluate_closure hkind hv
  have hreads : ∀ x, code.Reads x → ¬ IsCaptureName x := by
    intro x hx hcapture
    rw [hcode] at hnames
    have hx' := List.all_eq_true.1 hnames x (Code.mem_names_iff.2 hx)
    rw [IsCaptureName] at hcapture
    simp [hcapture] at hx'
  refine ⟨code, f, hcode, hf, hparameters, hreads, fun v limit depth => ?_⟩
  refine hmeaning hreads _ (fun x hx => ?_) limit depth
  rw [Table.get?_insert] at hx
  split at hx
  · rename_i heq
    exact List.mem_singleton.2 heq
  · cases hx

end Session

end Reckon
