/-
# Reckon.Proofs.Session.Binding — what is bound can be used

A name that a host or a statement has bound evaluates to what it was bound to, and a function that
a statement has defined can be called by its name. For this the readers of names have to agree:
the heads of statements and hosts take the same names, and formulas read these as names, too.

Three of these names are JSON literals where formulas are concerned, and of them nothing is said
here. Formulas read one kind of name more, the words of captures, which nobody binds. And a call
takes a level of nesting, so in a session that allows none a function can be defined and not
called.
-/
import Reckon.Proofs.Session.Calling
import Reckon.Proofs.Session.Closure

namespace Reckon.Session

open Lexeme (Usable CaptureWord reservedWords)
open Outcome (exists_of_toBool)
open Statement (classify prepare splitName?)

variable {s : Session} {name source body : String} {parameters : List String} {v : Value}

/-! ## Variables -/

/-- What a usable name stands for is what its text evaluates to. -/
theorem evaluate_name (h : Usable name) (hv : s.environment.value? name = some v) :
    SameResult (s.evaluate name) (.ok v, s) := by
  have hlast : name.toList.getLast? ≠ some ';' := by
    intro hlast
    have hchar := Lexeme.isNameChar_of_mem h.isName ';' (List.mem_of_getLast? hlast)
    exact absurd hchar (by decide)
  have hload : Machine.loadOutcome s.environment.scope .empty s.environment.captures
      (.identifier name) = .ok v := by
    rw [Machine.loadOutcome, Table.get?_empty]
    dsimp only
    rw [← Environment.value?, hv]
  exact s.evaluate_operand (Statement.prepare_name h.isName) hlast
    (Lexeme.scan_eq_identifier_iff.2 (.inl h)) rfl hload

theorem value?_of_setVariable {s' : Session} (h : s.setVariable name v = .ok s') :
    Text.isName name.toList = true ∧ s'.environment.value? name = some v := by
  obtain ⟨scope, hscope, heq⟩ := Outcome.bind_eq_ok_iff.1 h
  cases heq
  obtain ⟨hname, rfl⟩ := Scope.eq_of_setVariable hscope
  have hconstant : isConstant name = false := by
    cases hconstant : isConstant name with
    | false => rfl
    | true =>
        rw [Scope.setVariable, if_pos hconstant] at hscope
        cases hscope
  let bound : Environment := { s.environment with
    scope := { s.environment.scope with bindings := s.environment.scope.bindings.insert name v } }
  have hbinds : s.environment.Binds name v bound := .of_scope_eq hconstant rfl
  exact ⟨hname, hbinds.value⟩

theorem value?_of_assignment (hkind : classify (prepare source.toList) = .assignment name body)
    (hok : (s.evaluate source).1 = .ok v) :
    (s.evaluate source).2.environment.value? name = some v := by
  have hpermits := s.permits_runStatement source
  rw [hkind, ← evaluate_fst, ← environment_evaluate, hok] at hpermits
  exact Environment.Binds.value hpermits

/-! ## Functions -/

/-- Parameters of which none is found to stand twice are all different. -/
theorem nodup_of_duplicate? {earlier : List String}
    (h : duplicate? earlier parameters = none) :
    parameters.Nodup ∧ ∀ p ∈ parameters, p ∉ earlier := by
  induction parameters generalizing earlier with
  | nil => exact ⟨.nil, nofun⟩
  | cons p rest ih =>
      rw [duplicate?] at h
      split at h
      · cases h
      · rename_i hp
        obtain ⟨hnodup, hrest⟩ := ih h
        have hnotMem : p ∉ earlier := fun hmem => hp (List.contains_iff_mem.2 hmem)
        refine ⟨List.nodup_cons.2 ⟨fun hmem => hrest p hmem List.mem_cons_self, hnodup⟩, ?_⟩
        intro q hq
        rcases List.mem_cons.1 hq with rfl | hq
        · exact hnotMem
        · exact fun hmem => hrest q hq (List.mem_cons_of_mem _ hmem)

/-- What is defined is no built-in function, and its parameters are all different. -/
theorem of_define_ok {result : Evaluation} (h : (s.define name parameters body).1 = .ok result) :
    Builtin.isName name = false ∧ parameters.Nodup := by
  rw [define] at h
  split at h
  · cases h
  · rename_i hbuiltin
    split at h
    · cases h
    · rename_i hduplicate
      exact ⟨Bool.eq_false_iff.2 hbuiltin, (nodup_of_duplicate? hduplicate).1⟩

/-- A definition defines its function. -/
theorem exists_function_of_evaluate
    (hkind : classify (prepare source.toList) = .definition name parameters body)
    (hok : (s.evaluate source).1 = .ok v) :
    ∃ f code, (s.evaluate source).2.environment.scope.resolve? name = some (.user f) ∧
      f.parameters = parameters ∧ parameters.Nodup ∧ s.convert body = .ok code ∧
      Code.freeze s.environment parameters code = .ok f.body := by
  obtain ⟨code, frozen, hcode, hfrozen, hdefines⟩ := exists_frozen_of_evaluate hkind hok
  have hdefine : ∃ result, (s.define name parameters body).1 = .ok result := by
    rw [evaluate_fst] at hok
    obtain ⟨result, hresult, -⟩ := Outcome.map_eq_ok_iff.1 hok
    rw [runStatement] at hresult
    split at hresult
    · cases hresult
    · rw [hkind] at hresult
      exact ⟨result, hresult⟩
  obtain ⟨result, hresult⟩ := hdefine
  obtain ⟨hbuiltin, hnodup⟩ := of_define_ok hresult
  refine ⟨⟨parameters, frozen⟩, code, ?_, rfl, hnodup, hcode, hfrozen⟩
  rw [Scope.resolve?, if_neg (Bool.eq_false_iff.1 hbuiltin), hdefines.functions, Table.get?_insert,
    if_pos rfl]

/-- The name of a parameter is frozen as it stands. -/
theorem freeze_parameter {env : Environment} {p : String} {frozen : Code} (hp : p ∈ parameters)
    (h : Code.freeze env parameters [.operand (.identifier p)] = .ok frozen) :
    frozen = [.operand (.identifier p)] := by
  obtain ⟨j, rest, hj, hrest, rfl⟩ := Code.freeze_cons_iff.1 h
  rw [Instruction.freeze, if_pos (List.contains_iff_mem.2 hp)] at hj
  cases hj
  cases hrest
  rfl

/-! ## Bindings -/

/-- What a definition lets a session do that it leaves behind: a call with as many arguments as
there are parameters is converted to a call, and it returns the argument in the place of a
parameter if the body is the name of this parameter. -/
structure Callable (s : Session) (name : String) (parameters : List String) (body : String) :
    Prop where
  convert : ∀ args codes, args.length = parameters.length → List.Forall₂ s.Converts args codes →
    s.convert (callText name args) = .ok (codes.flatten ++ [.call name args.length])
  parameter : 0 < s.settings.recursionLimit → ∀ i p, parameters[i]? = some p → body = p →
    p ∉ reservedWords → ∀ args codes, args.length = parameters.length →
    List.Forall₂ s.Converts args codes → s.ReturnsArgument i codes (callText name args)

theorem callable_of_evaluate (hfree : name ∉ reservedWords)
    (hkind : classify (prepare source.toList) = .definition name parameters body)
    (hok : (s.evaluate source).1 = .ok v) :
    (s.evaluate source).2.Callable name parameters body := by
  obtain ⟨f, code, hresolve, rfl, hnodup, hcode, hfrozen⟩ := exists_function_of_evaluate hkind hok
  obtain ⟨hname, hparameters⟩ := Statement.isName_of_classify_definition hkind
  have husable : Usable name := ⟨hname, hfree⟩
  constructor
  · intro args codes hcount hargs
    refine convert_callText husable ?_ hargs
    rw [Scope.arity?, hresolve, hcount]
    rfl
  · intro hlimit i p hp hbody hpfree args codes hcount hargs
    have hmem : p ∈ f.parameters := List.mem_of_getElem? hp
    have hfbody : f.body = [.operand (.identifier p)] := by
      rw [hbody, s.convert_name ⟨hparameters p hmem, hpfree⟩] at hcode
      cases hcode
      exact freeze_parameter hmem hfrozen
    exact returnsArgument_callText husable hargs hresolve hcount hlimit hfbody hnodup hp

/-- A name that has been bound, and is no JSON literal, can be used. Its text evaluates to the value
that a host or an assignment has bound it to, and a function that has been defined by it can be
called. So names are read the same by the heads of statements, by hosts and by formulas; only
these read the words of captures, too. -/
theorem evaluate_bound (s : Session) (name : String) (hfree : name ∉ reservedWords) :
    (∀ v s', s.setVariable name v = .ok s' → (s'.evaluate name).1 = .ok v) ∧
    (∀ source body v, classify (prepare source.toList) = .assignment name body →
      (s.evaluate source).1 = .ok v → ((s.evaluate source).2.evaluate name).1 = .ok v) ∧
    (∀ source parameters body v,
      classify (prepare source.toList) = .definition name parameters body →
      (s.evaluate source).1 = .ok v → (s.evaluate source).2.Callable name parameters body) ∧
    (splitName? name.toList = some (name, []) ↔ Text.isName name.toList = true) ∧
    (Text.isName name.toList = true ↔
      Lexeme.scan name = .ok [.identifier name] ∧ ¬ CaptureWord name) ∧
    (Text.isName name.toList = true ↔ Lexeme.scan (name ++ "(") = .ok [.call name]) := by
  have husable : Text.isName name.toList = true ↔ Usable name :=
    ⟨fun h => ⟨h, hfree⟩, fun h => h.isName⟩
  refine ⟨?_, ?_, ?_, Lexeme.splitName?_eq_self_iff, ?_, ?_⟩
  · intro v s' hset
    obtain ⟨hname, hv⟩ := value?_of_setVariable hset
    exact (evaluate_name (husable.1 hname) hv).1
  · intro source body v hkind hok
    have hname := Statement.isName_of_classify_assignment hkind
    exact (evaluate_name (husable.1 hname) (value?_of_assignment hkind hok)).1
  · intro source parameters body v hkind hok
    exact callable_of_evaluate hfree hkind hok
  · rw [husable, Lexeme.scan_eq_identifier_iff]
    constructor
    · intro h
      exact ⟨.inl h, Lexeme.not_captureWord_of_isName h.isName⟩
    · rintro ⟨h, hcapture⟩
      exact h.resolve_right hcapture
  · rw [husable, Lexeme.scan_eq_call_iff]

/-- A variable that a host sets, one that is assigned to, and a function that returns its second
argument. -/
theorem evaluate_bound_second :
    (∃ s', setVariable {} "x" .null = .ok s' ∧ (s'.evaluate "x").1 = .ok .null) ∧
    (∃ v, (evaluate {} "x = true").1 = .ok v ∧
      ((evaluate {} "x = true").2.evaluate "x").1 = .ok v) ∧
    (∃ codes, List.Forall₂ (evaluate {} "f(a, b) = b").2.Converts ["pi", " e"] codes ∧
      (evaluate {} "f(a, b) = b").2.convert "f(pi, e)" = .ok (codes.flatten ++ [.call "f" 2]) ∧
      (evaluate {} "f(a, b) = b").2.ReturnsArgument 1 codes "f(pi, e)") := by
  refine ⟨?_, ?_, ?_⟩
  · have hok : (setVariable {} "x" .null).toBool = true := by decide +kernel
    obtain ⟨s', hset⟩ := exists_of_toBool hok
    exact ⟨s', hset, (evaluate_bound {} "x" (by decide)).1 _ _ hset⟩
  · have hkind : classify (prepare "x = true".toList) = .assignment "x" "true" := by
      decide +kernel
    have hok : (evaluate {} "x = true").1.toBool = true := by decide +kernel
    obtain ⟨v, hv⟩ := exists_of_toBool hok
    exact ⟨v, hv, (evaluate_bound {} "x" (by decide)).2.1 _ _ _ hkind hv⟩
  · have hkind : classify (prepare "f(a, b) = b".toList) = .definition "f" ["a", "b"] "b" := by
      decide +kernel
    have hok : (evaluate {} "f(a, b) = b").1.toBool = true := by decide +kernel
    obtain ⟨v, hv⟩ := exists_of_toBool hok
    have hcallable := (evaluate_bound {} "f" (by decide)).2.2.1 _ _ _ _ hkind hv
    have hpi : ((evaluate {} "f(a, b) = b").2.convert "pi").toBool = true ∧
        (Text.trim (Statement.unbroken "pi".toList)).getLast? ≠ some ';' := by decide +kernel
    have he : ((evaluate {} "f(a, b) = b").2.convert " e").toBool = true ∧
        (Text.trim (Statement.unbroken " e".toList)).getLast? ≠ some ';' := by decide +kernel
    obtain ⟨first, hfirst⟩ := exists_of_toBool hpi.1
    obtain ⟨second, hsecond⟩ := exists_of_toBool he.1
    have hargs : List.Forall₂ (evaluate {} "f(a, b) = b").2.Converts ["pi", " e"]
        [first, second] := .cons ⟨hfirst, hpi.2⟩ (.cons ⟨hsecond, he.2⟩ .nil)
    have hlimit : 0 < (evaluate {} "f(a, b) = b").2.settings.recursionLimit := by
      decide +kernel
    have htext : callText "f" ["pi", " e"] = "f(pi, e)" := by decide +kernel
    rw [← htext]
    exact ⟨[first, second], hargs, hcallable.convert _ _ rfl hargs,
      hcallable.parameter hlimit 1 "b" rfl rfl (by decide) _ _ rfl hargs⟩

/-- Where no nesting is allowed, a function can be defined and its calls converted, and they all
fail. An argument that ends in a semicolon can be converted by itself, and not in a call. What has
been bound to the name of a literal is not what its text evaluates to, and what is read as a name
need not be one that can be bound. -/
theorem not_evaluate_bound :
    ((evaluate { settings := { recursionLimit := 0 } } "f(x) = x").1.toBool = true ∧
      ((evaluate { settings := { recursionLimit := 0 } } "f(x) = x").2.convert
        "f(true)").toBool = true ∧
      ((evaluate { settings := { recursionLimit := 0 } } "f(x) = x").2.evaluate
        "f(true)").1.map Value.isTruthy = .error (.recursionLimit 0)) ∧
    (((evaluate {} "f(x) = x").2.convert "true;").toBool = true ∧
      ((evaluate {} "f(x) = x").2.convert "f(true;)").map List.length
        = .error (.grammar (.illegalCharacter ';'))) ∧
    ((evaluate {} "true = null").1.map Value.isTruthy = .ok false ∧
      ((evaluate {} "true = null").2.evaluate "true").1.map Value.isTruthy = .ok true) ∧
    (Lexeme.scan "$0" = .ok [.identifier "$0"] ∧ Text.isName "$0".toList = false) := by
  refine ⟨by decide +kernel, by decide +kernel, by decide +kernel, by cbv, by decide⟩

end Reckon.Session
