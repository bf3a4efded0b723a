/-
# Reckon.Proofs.Environment.Names — all names in one table

An environment keeps constants, variables and captures apart. They can as well be kept in one table,
in which nothing but the spelling of a name tells what it is. Then it takes the checks on the names
of variables to keep constants what they are, and to give the captures anew every name with their
sign is removed before one name after the other is bound.

Both come to the same. Whatever a host does, failing or not, what names stand for in the environment
is what the one table says, provided that the table tries the matches that executed code has tried
(`Environment.performsAll_iff`). So no capture of an earlier match survives the next one in either,
and the rules on names hold of both (`Environment.after_names`).
-/
import Mathlib.Logic.Function.Basic
import Reckon.Proofs.Environment.Discipline
import Reckon.Proofs.Evaluation.Matches

namespace Reckon

/-! ## The table -/

/-- What names stand for, in one table. -/
abbrev Valuation := String → Option Value

namespace Valuation

/-- The table of a new environment: the constants. -/
def initial : Valuation :=
  fun name => constants.lookup name

/-- Binds a variable. -/
def setVariable (table : Valuation) (name : String) (v : Value) : Except Fault Valuation :=
  if isConstant name then .error (.constantReassignment name)
  else if !Text.isName name.toList then .error (.grammar (.invalidVariableName name))
  else .ok (Function.update table name (some v))

/-- The table without the names that have the sign of captures. -/
def clearCaptures (table : Valuation) : Valuation := fun name =>
  if name.toList.head? = some '$' then none else table name

/-- The table with texts bound to the names of captures, from a place on. -/
def bindCaptures (table : Valuation) : Nat → List String → Valuation
  | _, [] => table
  | i, s :: rest =>
    bindCaptures (Function.update table (captureName i) (some (.text s))) (i + 1) rest

/-- The table with the captures of a match in place of those of the last one. -/
def setCaptures (table : Valuation) (groups : List String) : Valuation :=
  table.clearCaptures.bindCaptures 0 groups

/-- The table after a subject has been matched against a pattern. Where nothing is found there are
no groups to bind. -/
def afterMatch (table : Valuation) (m : Value × Value) : Valuation :=
  match (Machine.matchOutcome m.1 m.2).2 with
  | some groups => table.setCaptures groups
  | none => table

/-- `table.Performs env action table'`: what the action makes of the table, where it is done in the
environment `env`. Executing code tries matches, and they leave the captures that it leaves. -/
inductive Performs (env : Environment) (table : Valuation) : Action → Valuation → Prop
  | setVariable (name : String) (v : Value) :
      Performs env table (.setVariable name v) ((table.setVariable name v).toOption.getD table)
  | setCaptures (groups : List String) :
      Performs env table (.setCaptures groups) (table.setCaptures groups)
  | clearCaptures : Performs env table .clearCaptures table.clearCaptures
  | define (name : String) (f : UserFunction) : Performs env table (.define name f) table
  | register (name : String) (f : HostFunction) : Performs env table (.register name f) table
  | execute (limit depth : Nat) (frame : Frame) (code : Code) (tried : List (Value × Value)) :
      (code.evaluate env limit depth frame).2 = env.captures.afterMatches tried →
      Performs env table (.execute limit depth frame code) (tried.foldl afterMatch table)

/-- `PerformsAll env table actions table'`: what actions, one after the other, make of the table. -/
inductive PerformsAll : Environment → Valuation → List Action → Valuation → Prop
  | nil (env : Environment) (table : Valuation) : PerformsAll env table [] table
  | cons {env : Environment} {table next last : Valuation} {action : Action}
      {actions : List Action} : Performs env table action next →
      PerformsAll (env.perform action) next actions last →
      PerformsAll env table (action :: actions) last

theorem bindCaptures_apply (table : Valuation) (first : Nat) (groups : List String)
    (name : String) :
    table.bindCaptures first groups name
      = ((lookupCapture? name first groups).map .text).or (table name) := by
  induction groups generalizing table first with
  | nil => rfl
  | cons s rest ih =>
      rw [bindCaptures, ih, lookupCapture?]
      by_cases hname : name = captureName first
      · rw [hname, lookupCapture?_of_lt (Nat.lt_succ_self first), if_pos rfl,
          Function.update_self]
        rfl
      · rw [if_neg hname, Function.update_of_ne hname]

end Valuation

/-! ## The table of an environment -/

namespace Environment

variable {env : Environment}

theorem value?_initial : value? {} = Valuation.initial := by
  funext name
  rw [value?, Scope.value?, Valuation.initial]
  cases constants.lookup name <;> rfl

/-- A name that is bound to a value stands for it, unless it is that of a constant. -/
theorem value?_insert (env : Environment) {name : String} (hname : isConstant name = false)
    (v : Value) :
    value? { env with scope :=
        { env.scope with bindings := env.scope.bindings.insert name v } }
      = Function.update env.value? name (some v) := by
  funext other
  by_cases hother : other = name
  · have hlookup : constants.lookup name = none := by
      simpa [isConstant] using hname
    rw [hother, Function.update_self, value?, Scope.value?, hlookup]
    dsimp only
    rw [Table.get?_insert, if_pos rfl]
  · rw [Function.update_of_ne hother, value?, value?, Scope.value?, Scope.value?]
    dsimp only
    rw [Table.get?_insert, if_neg hother]

/-- A variable is bound in the one table exactly if it is bound in the scope. -/
theorem value?_setVariable (env : Environment) (name : String) (v : Value) :
    (env.perform (.setVariable name v)).value?
      = (Valuation.setVariable env.value? name v).toOption.getD env.value? := by
  rw [perform, Scope.setVariable, Valuation.setVariable]
  split
  · rfl
  · rename_i hname
    split
    · rfl
    · exact env.value?_insert (Bool.eq_false_iff.2 hname) v

/-- A change of the functions leaves the table alone. -/
theorem value?_withScope {result : Except Fault Scope}
    (h : ∀ scope, result = .ok scope → scope.bindings = env.scope.bindings) :
    (env.withScope result).value? = env.value? := by
  cases result with
  | error e => rfl
  | ok scope =>
      funext name
      rw [withScope, value?, value?, Scope.value?, Scope.value?, h scope rfl]

theorem value?_define (env : Environment) (name : String) (f : UserFunction) :
    (env.perform (.define name f)).value? = env.value? :=
  value?_withScope fun _ h => by rw [Scope.eq_of_define h]

theorem value?_register (env : Environment) (name : String) (f : HostFunction) :
    (env.perform (.register name f)).value? = env.value? :=
  value?_withScope fun _ h => by rw [Scope.eq_of_register h]

/-- Giving the captures anew is clearing them and binding the new ones one after the other. -/
theorem value?_setCaptures (henv : env.scope.Disciplined) (groups : List String) :
    (env.setCaptures groups).value? = Valuation.setCaptures env.value? groups := by
  funext name
  rw [Valuation.setCaptures, Valuation.bindCaptures_apply, Valuation.clearCaptures]
  split
  · rename_i hsign
    by_cases hcapture : ∃ i, name = captureName i
    · obtain ⟨i, rfl⟩ := hcapture
      rw [Option.or_none]
      exact henv.reserved.value?_captureName i groups
    · have hne : ∀ i, name ≠ captureName i := fun i hi => hcapture ⟨i, hi⟩
      rw [lookupCapture?_of_ne hne]
      refine Option.eq_none_iff_forall_ne_some.2 fun v hv => ?_
      obtain ⟨i, -, hi⟩ := (hasCaptures (perform_disciplined henv (.setCaptures groups))).2 name
        hsign (Option.isSome_iff_exists.2 ⟨v, hv⟩)
      exact hne i hi
  · rename_i hsign
    have hne : ∀ i, name ≠ captureName i := by
      rintro i rfl
      exact hsign (by rw [captureName_toList]; rfl)
    rw [lookupCapture?_of_ne hne]
    exact env.scope.value?_of_not_isCaptureName hsign groups env.captures

theorem value?_clearCaptures (henv : env.scope.Disciplined) :
    env.clearCaptures.value? = Valuation.clearCaptures env.value? :=
  value?_setCaptures henv []

theorem value?_afterMatch (henv : env.scope.Disciplined) (m : Value × Value) :
    value? { env with captures := env.captures.afterMatch m }
      = Valuation.afterMatch env.value? m := by
  rw [Captures.afterMatch, Machine.matchPattern_run, Valuation.afterMatch]
  cases (Machine.matchOutcome m.1 m.2).2 with
  | none => rfl
  | some groups => exact value?_setCaptures henv groups

theorem value?_afterMatches (henv : env.scope.Disciplined) (tried : List (Value × Value)) :
    value? { env with captures := env.captures.afterMatches tried }
      = tried.foldl Valuation.afterMatch env.value? := by
  induction tried generalizing env with
  | nil => rfl
  | cons m tried ih =>
      rw [List.foldl_cons, ← value?_afterMatch henv]
      exact @ih { env with captures := env.captures.afterMatch m } henv

/-- An action makes of the table of an environment the table of the environment after it. -/
theorem performs_iff (henv : env.scope.Disciplined) {action : Action} {table : Valuation} :
    Valuation.Performs env env.value? action table ↔ table = (env.perform action).value? := by
  constructor
  · intro h
    cases h with
    | setVariable name v => exact (value?_setVariable env name v).symm
    | setCaptures groups => exact (value?_setCaptures henv groups).symm
    | clearCaptures => exact (value?_clearCaptures henv).symm
    | define name f => exact (value?_define env name f).symm
    | register name f => exact (value?_register env name f).symm
    | execute limit depth frame code tried htried =>
        rw [perform, htried]
        exact (value?_afterMatches henv tried).symm
  · rintro rfl
    cases action with
    | setVariable name v => exact value?_setVariable env name v ▸ .setVariable name v
    | setCaptures groups => exact value?_setCaptures henv groups ▸ .setCaptures groups
    | clearCaptures => exact value?_clearCaptures henv ▸ .clearCaptures
    | define name f => exact value?_define env name f ▸ .define name f
    | register name f => exact value?_register env name f ▸ .register name f
    | execute limit depth frame code =>
        obtain ⟨tried, htried⟩ := code.evaluate_matches env limit depth frame
        rw [perform, htried, value?_afterMatches henv tried]
        exact .execute limit depth frame code tried htried

/-- Actions make of the table of an environment the table of the environment after them. -/
theorem performsAll_iff (henv : env.scope.Disciplined) {actions : List Action}
    {table : Valuation} :
    Valuation.PerformsAll env env.value? actions table ↔ table = (env.after actions).value? := by
  induction actions generalizing env with
  | nil =>
      constructor
      · intro h
        cases h
        rfl
      · rintro rfl
        exact .nil env env.value?
  | cons action actions ih =>
      have hrest := ih (perform_disciplined henv action)
      constructor
      · intro h
        cases h with
        | cons hfirst hactions =>
            rw [(performs_iff henv).1 hfirst] at hactions
            exact hrest.1 hactions
      · intro h
        exact .cons ((performs_iff henv).2 rfl) (hrest.2 h)

-- a capture with a higher number than the last group does not outlive the next match
example :
    (after {} [.setCaptures ["ab", "b"], .setCaptures ["c"]]).value? "$1" = none := by
  rfl

end Environment

/-! ## All histories -/

namespace Environment

/-- The names of every environment that a host can bring about from a new one. What has a value is a
constant, a variable or a capture. The captures are `$0`, `$1` and so on without a gap, also where a
match has just been made in the middle of a run. No function hides a built-in one, and `if` is
always there. All this holds as well where all names are in one table, which starts with the
constants and to which the same is done. -/
theorem after_names (actions : List Action) :
    let env := Environment.after {} actions
    (∀ name v, env.value? name = some v ↔
      constants.lookup name = some v ∨
      (Text.isName name.toList = true ∧ isConstant name = false ∧
        env.scope.bindings.get? name = some v) ∨
      ∃ i s, name = captureName i ∧ env.captures[i]? = some s ∧ v = .text s) ∧
    env.HasCaptures env.captures ∧
    (∀ (captures : Captures) (subject pattern : Value),
      let matched := (Machine.binary .matching subject pattern).run captures
      Machine.Matching captures subject pattern matched ∧
        { env with captures := matched.2 }.HasCaptures matched.2) ∧
    (∀ name, Builtin.isName name = true →
      env.scope.functions.get? name = none ∧ env.scope.hosts.get? name = none) ∧
    (env.scope.resolve? "if").isSome = true ∧
    ∀ table, Valuation.PerformsAll {} Valuation.initial actions table ↔ table = env.value? := by
  intro env
  have henv : env.scope.Disciplined := after_disciplined Scope.Disciplined.initial actions
  refine ⟨fun name v => value?_eq_some_iff henv, hasCaptures henv, fun captures subject pattern =>
    ⟨Machine.matching_matchPattern subject pattern captures, ?_⟩, fun name => henv.get?_eq_none,
    henv.resolve_conditional, fun table => ?_⟩
  · -- a match changes the captures alone
    exact hasCaptures (perform_disciplined henv (.setCaptures _))
  · rw [← value?_initial]
    exact performsAll_iff Scope.Disciplined.initial

end Environment

end Reckon
