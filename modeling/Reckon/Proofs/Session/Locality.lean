/-
# Reckon.Proofs.Session.Locality — closures are by value, and evaluation is local

The functions that statements define read nothing but their parameters. So what code evaluates
to in an environment that a session reaches depends on nothing but what the names in the code
stand for and on the functions that the code reaches; a call on values depends on these functions
alone, and nothing that is asked of the session later changes it, unless one of them is defined
anew.

There is one way to tell environments apart in which all names of the code stand for the same: a
host can put a frame under the code that binds the name of a capture. A match then changes what
the name stands for where it is not in the frame, and not where it is. Sessions and calls never
bind such names.
-/
import Reckon.Proofs.Evaluation.Locality
import Reckon.Proofs.Session.Integrity

namespace Reckon

/-! ## Reached environments -/

/-- What a name stands for under a frame: an argument, else a variable, a constant or a
capture. -/
def Environment.lookup? (env : Environment) (frame : Frame) (name : String) : Option Value :=
  env.scope.lookup? env.captures frame name

theorem Text.isName_captureName (i : Nat) : Text.isName (captureName i).toList = false := by
  rw [captureName_toList]
  rfl

namespace Session

variable {s : Session} {defines? : Option String} {scope : Scope}

/-- No statement binds the name of a capture. -/
theorem Updates.reserved (h : s.Updates defines? scope)
    (hscope : s.environment.scope.Reserved) : scope.Reserved := by
  intro i
  cases h with
  | same => exact hscope i
  | @bound _ name v _ hset =>
      obtain ⟨hname, rfl⟩ := Scope.eq_of_setVariable hset
      have hne : captureName i ≠ name := by
        rintro rfl
        rw [Text.isName_captureName] at hname
        cases hname
      dsimp only
      rw [Table.get?_insert, if_neg hne]
      exact hscope i
  | defined _ hdefine =>
      rw [Scope.eq_of_define hdefine]
      exact hscope i
  | registered hregister =>
      rw [Scope.eq_of_register hregister]
      exact hscope i

/-- A request leaves all functions alone but the one that it defines. -/
theorem Updates.resolve?_eq (h : s.Updates defines? scope) {name : String}
    (hname : defines? ≠ some name) : scope.resolve? name = s.environment.scope.resolve? name := by
  cases h with
  | same => rfl
  | bound hset =>
      obtain ⟨-, rfl⟩ := Scope.eq_of_setVariable hset
      rfl
  | @defined other _ _ f _ _ hdefine =>
      have hne : name ≠ other := fun heq => hname (congrArg some heq.symm)
      rw [Scope.eq_of_define hdefine, Scope.resolve?, Scope.resolve?]
      dsimp only
      rw [Table.get?_insert, if_neg hne]
  | @registered other f _ hregister =>
      have hne : name ≠ other := fun heq => hname (congrArg some heq.symm)
      rw [Scope.eq_of_register hregister, Scope.resolve?, Scope.resolve?]
      dsimp only
      rw [Table.get?_insert, if_neg hne]

end Session

namespace Environment.Reached

variable {env : Environment}

theorem intact (h : env.Reached) : env.scope.Intact := by
  obtain ⟨settings, requests, rfl⟩ := h
  have hintact := History.after_induction (P := History.Intact)
    (fun _ request hintact => hintact.respond request) (History.intact_start settings) requests
  exact hintact.1

theorem reserved (h : env.Reached) : env.scope.Reserved := by
  obtain ⟨settings, requests, rfl⟩ := h
  refine History.after_induction (P := fun h => h.session.environment.scope.Reserved)
    (fun h request hreserved => (h.updates_respond request).reserved hreserved) ?_ requests
  intro i
  rfl

/-- All functions that statements have defined read nothing but their parameters. -/
theorem closed (h : env.Reached) {name : String} {f : UserFunction}
    (hf : env.scope.functions.get? name = some f) : f.Closed :=
  (h.intact name f hf).2

theorem closed_of_resolve? (h : env.Reached) {name : String} {f : UserFunction}
    (hf : env.scope.resolve? name = some (.user f)) : f.Closed :=
  h.closed (Scope.functions_of_resolve? hf)

end Environment.Reached

/-! ## Evaluations in two environments -/

/-- Where names stand for the same and functions are the same, an evaluation gives the same. -/
theorem Environment.Reached.evaluate_agree {env env' : Environment} (h : env.Reached)
    (h' : env'.Reached) {frame frame' : Frame} {code : Code}
    (hnames : ∀ name, code.Reads name → env.lookup? frame name = env'.lookup? frame' name)
    (hcaptures : ∀ i, code.Reads (captureName i) →
      (frame.get? (captureName i)).isSome = (frame'.get? (captureName i)).isSome)
    (hfunctions : ∀ name, code.Reaches env.scope name →
      env.scope.resolve? name = env'.scope.resolve? name) (limit depth : Nat) :
    (code.evaluate env limit depth frame).1 = (code.evaluate env' limit depth frame').1 ∧
      Captures.Linked env.captures env'.captures (code.evaluate env limit depth frame).2
        (code.evaluate env' limit depth frame').2 := by
  have halike : Machine.Alike env.captures env'.captures env.scope env'.scope frame frame' code :=
    { names := by
        intro name hreads
        refine Scope.lookup?_of_linked h.reserved h'.reserved (hnames name hreads) ?_
        rintro i rfl
        exact hcaptures i hreads
      functions := hfunctions }
  exact Machine.runWithin_agree (fun _ _ => h.closed_of_resolve?) limit (limit - depth) frame
    frame' code halike env.captures env'.captures (.inl ⟨rfl, rfl⟩)

/-! ## Calls on values -/

/-- The code of a call on values. -/
def Code.callOn (name : String) (values : List Value) : Code :=
  values.map (fun v => .operand (.value v)) ++ [.call name values.length]

theorem Code.not_reads_callOn (name : String) (values : List Value) (x : String) :
    ¬ (Code.callOn name values).Reads x := by
  have hvalues : .operand (.identifier x) ∉
      Code.parts (values.map fun v => .operand (.value v)) := by
    induction values with
    | nil => exact List.not_mem_nil
    | cons v values ih =>
        intro hmem
        rcases List.mem_cons.1 hmem with heq | hmem
        · cases heq
        · exact ih hmem
  intro hreads
  rcases Code.mem_parts_append.1 hreads with hmem | hmem
  · exact hvalues hmem
  · cases List.mem_singleton.1 hmem

theorem History.after_append (h : History) (requests later : List Request) :
    h.after (requests ++ later) = (h.after requests).after later :=
  List.foldl_append

/-- Requests leave all functions alone but those that they define. -/
theorem History.resolve?_after (h : History) (requests : List Request) (name : String)
    (hname : ∀ request ∈ requests, request.defines? ≠ some name) :
    (h.after requests).session.environment.scope.resolve? name
      = h.session.environment.scope.resolve? name := by
  induction requests generalizing h with
  | nil => rfl
  | cons request requests ih =>
      have hrest := ih (h.respond request).2
        fun later hmem => hname later (List.mem_cons_of_mem _ hmem)
      exact hrest.trans ((h.updates_respond request).resolve?_eq (hname request List.mem_cons_self))

/-- What a call on values gives is not changed by requests that define none of the functions that
it reaches. -/
theorem History.evaluate_callOn_after (settings : Settings) (requests later : List Request)
    {name : String} {values : List Value}
    (hlater : ∀ request ∈ later, ∀ other, request.defines? = some other →
      ¬ (Code.callOn name values).Reaches
        ((start settings).after requests).session.environment.scope other)
    (limit depth : Nat) (frame frame' : Frame) :
    ((Code.callOn name values).evaluate
        ((start settings).after (requests ++ later)).session.environment limit depth frame').1
      = ((Code.callOn name values).evaluate
        ((start settings).after requests).session.environment limit depth frame).1 := by
  have hreached : ((start settings).after requests).session.environment.Reached :=
    ⟨settings, requests, rfl⟩
  have hreached' : ((start settings).after (requests ++ later)).session.environment.Reached :=
    ⟨settings, requests ++ later, rfl⟩
  refine (hreached.evaluate_agree hreached' (fun x hreads => ?_) (fun i hreads => ?_)
    (fun other hreaches => ?_) limit depth).1.symm
  · exact absurd hreads (Code.not_reads_callOn name values x)
  · exact absurd hreads (Code.not_reads_callOn name values _)
  · have hsame := resolve?_after ((start settings).after requests) later other
      fun request hmem hdefines => hlater request hmem other hdefines hreaches
    rw [after_append]
    exact hsame.symm

/-! ## Locality -/

/-- No body of a function finds a name undefined. -/
theorem Environment.Reached.body_ne_undefinedVariable {env : Environment} (h : env.Reached)
    {name : String} {f : UserFunction} (hf : env.scope.functions.get? name = some f)
    {args : List Value} (hargs : args.length = f.arity) (limit depth : Nat) (captures : Captures)
    (x : String) :
    ((f.body.run env.scope limit depth (f.frame args)).run captures).1
      ≠ .error (.undefinedVariable x) := by
  obtain ⟨hintact, hclosed⟩ := h.intact name f hf
  intro heq
  have hexpected := Code.run_raises h.intact hintact limit depth (f.frame args) captures _ heq
  cases hclosed.isOfEvaluation hargs hexpected

/-- Closures are by value, and evaluation is local.

The functions of a reached environment read nothing but their parameters, in selectors neither.
Code has the same outcome in two reached environments under two frames, and leaves the same
captures or both times those that there were, if all names in it stand for the same, names of
captures in it are bound by both frames or by none, and the functions that it reaches are the
same. In particular nothing that is asked of a session later changes a call on values, as long as
no function that the call reaches is defined anew; and no name is undefined in a body. -/
theorem Environment.evaluation_local :
    (∀ env : Environment, env.Reached → ∀ name f, env.scope.functions.get? name = some f →
      ∀ x, f.body.Reads x → x ∈ f.parameters) ∧
    (∀ env env' : Environment, env.Reached → env'.Reached →
      ∀ (frame frame' : Frame) (code : Code) (limit depth : Nat),
      (∀ name, code.Reads name → env.lookup? frame name = env'.lookup? frame' name) →
      (∀ i, code.Reads (captureName i) →
        (frame.get? (captureName i)).isSome = (frame'.get? (captureName i)).isSome) →
      (∀ name, code.Reaches env.scope name →
        env.scope.resolve? name = env'.scope.resolve? name) →
      ∃ outcome left left', code.evaluate env limit depth frame = (outcome, left) ∧
        code.evaluate env' limit depth frame' = (outcome, left') ∧
        ((left = env.captures ∧ left' = env'.captures) ∨ left = left')) ∧
    (∀ (settings : Settings) (requests later : List Request) (name : String)
      (values : List Value) (limit depth : Nat) (frame frame' : Frame),
      (∀ request ∈ later, ∀ other, request.defines? = some other →
        ¬ (Code.callOn name values).Reaches
          ((History.start settings).after requests).session.environment.scope other) →
      ((Code.callOn name values).evaluate
          ((History.start settings).after (requests ++ later)).session.environment
          limit depth frame').1
        = ((Code.callOn name values).evaluate
          ((History.start settings).after requests).session.environment limit depth frame).1) ∧
    ∀ env : Environment, env.Reached → ∀ name f, env.scope.functions.get? name = some f →
      ∀ args : List Value, args.length = f.arity → ∀ limit depth captures x,
      ((f.body.run env.scope limit depth (f.frame args)).run captures).1
        ≠ .error (.undefinedVariable x) := by
  refine ⟨?_, ?_, ?_, ?_⟩
  · intro env h name f hf
    exact h.closed hf
  · intro env env' h h' frame frame' code limit depth hnames hcaptures hfunctions
    obtain ⟨houtcome, hleft⟩ := h.evaluate_agree h' hnames hcaptures hfunctions limit depth
    exact ⟨(code.evaluate env limit depth frame).1, (code.evaluate env limit depth frame).2,
      (code.evaluate env' limit depth frame').2, rfl, Prod.ext houtcome.symm rfl, hleft⟩
  · intro settings requests later name values limit depth frame frame' hlater
    exact History.evaluate_callOn_after settings requests later hlater limit depth frame frame'
  · intro env h name f hf args hargs limit depth captures x
    exact h.body_ne_undefinedVariable hf hargs limit depth captures x

/-! ## A frame that hides a capture -/

/-- Looks into an empty object under the outcome of a match, and adds the text that has matched:
`{}["x" =~ "/x/"] + $0`, with the match in place of a selector. -/
def Code.captureAfterMatch : Code :=
  [.operand (.value (.object [])), .operand (.text "x"), .operand (.pattern "/x/"),
    .operator .matching, .index, .operand (.identifier "$0"), .operator .add]

theorem Machine.foldlM_step_of_ok {scope : Scope} {inside : Frame → Code → Run Value}
    {frame : Frame} {i : Instruction} {stack : List Value} (stack' : List Value)
    {c c' : Captures} (h : (step scope inside frame stack i).run c = (.ok stack', c')) (code : Code) :
    ((i :: code).foldlM (step scope inside frame) stack).run c
      = (code.foldlM (step scope inside frame) stack').run c' := by
  rw [List.foldlM_cons, Run.run_bind_of_ok h]

/-- The match makes the captures `x`, and what is added to nothing is what the name stands for
then. -/
theorem Code.evaluate_captureAfterMatch (env : Environment) (frame : Frame) {s : String}
    (h : env.scope.lookup? ["x"] frame "$0" = some (.text s)) :
    captureAfterMatch.evaluate env 16 0 frame = (.ok (.text ("" ++ s)), ["x"]) := by
  have hcaptures : (Machine.matchOutcome (.text "x") (.text "/x/")).2 = some ["x"] := by
    decide +kernel
  have hok : (Machine.matchOutcome (.text "x") (.text "/x/")).1.isOk = true := by
    decide +kernel
  obtain ⟨v, hv⟩ : ∃ v, (Machine.matchOutcome (.text "x") (.text "/x/")).1 = .ok v := by
    cases hfirst : (Machine.matchOutcome (.text "x") (.text "/x/")).1 with
    | ok v => exact ⟨v, rfl⟩
    | error e =>
        rw [hfirst] at hok
        cases hok
  have hmatch : (Machine.matchPattern (.text "x") (.text "/x/")).run env.captures
      = (.ok v, ["x"]) := by
    rw [Machine.matchPattern_run, hcaptures, hv]
    rfl
  have hload : (Machine.load env.scope frame (.identifier "$0")).run ["x"]
      = (.ok (.text s), ["x"]) := by
    rw [Machine.load_run, Machine.loadOutcome_identifier, h]
  have hstack : (captureAfterMatch.foldlM
      (Machine.step env.scope (Machine.inside env.scope 16 0) frame) []).run env.captures
      = (.ok [.text ("" ++ s)], ["x"]) := by
    rw [captureAfterMatch, Machine.foldlM_step_of_ok [.object []] rfl,
      Machine.foldlM_step_of_ok [.text "x", .object []] rfl,
      Machine.foldlM_step_of_ok [.text "/x/", .text "x", .object []] rfl,
      Machine.foldlM_step_of_ok _ (Run.run_bind_of_ok hmatch _),
      Machine.foldlM_step_of_ok [.null] rfl,
      Machine.foldlM_step_of_ok _ (Run.run_bind_of_ok hload _)]
    rfl
  rw [evaluate, Machine.run_eq_runWith, Machine.runWith, Run.run_bind_of_ok hstack]
  rfl

/-- Has a session match a text before anything else. -/
def Request.matchFirst : List Request :=
  [.setVariable "x" (.text "a"), .setVariable "p" (.text "/a/"), .convert "x=~p", .execute 0]

/-- Without its condition on the names of captures, locality fails: a frame that binds `$0` to
what another environment has captured hides the captures of the matches to come. -/
theorem Environment.not_local_of_hidden_capture :
    ¬ ∀ env env' : Environment, env.Reached → env'.Reached →
      ∀ (frame frame' : Frame) (code : Code) (limit depth : Nat),
      (∀ name, code.Reads name → env.lookup? frame name = env'.lookup? frame' name) →
      (∀ name, code.Reaches env.scope name →
        env.scope.resolve? name = env'.scope.resolve? name) →
      ∃ outcome left left', code.evaluate env limit depth frame = (outcome, left) ∧
        code.evaluate env' limit depth frame' = (outcome, left') ∧
        ((left = env.captures ∧ left' = env'.captures) ∨ left = left') := by
  intro hlocal
  -- the environment of a new session, and that of one that has captured `a`
  have hinitial : ({} : Environment).Reached := ⟨{}, [], rfl⟩
  obtain ⟨env, henv⟩ : ∃ env, ((History.start {}).after Request.matchFirst).session.environment
      = env := ⟨_, rfl⟩
  have hreached : env.Reached := ⟨{}, Request.matchFirst, henv⟩
  have hcaptures : env.captures = ["a"] := by
    rw [← henv]
    decide +kernel
  have hvalue : ∀ captures, env.scope.value? captures "$0"
      = (lookupCapture? "$0" 0 captures).map .text := hreached.reserved.value?_captureName 0
  have hframe : ∀ captures, Scope.initial.lookup? captures
      (Table.empty.insert "$0" (.text "a")) "$0" = some (.text "a") := fun _ => rfl
  -- `$0` is `a` in both, here because the frame says so
  have hnames : ∀ name, Code.captureAfterMatch.Reads name →
      ({} : Environment).lookup? (Table.empty.insert "$0" (.text "a")) name
        = env.lookup? .empty name := by
    intro name hreads
    have hname : name = "$0" := by
      simpa [Code.Reads, Code.captureAfterMatch, Code.parts, Instruction.parts] using hreads
    subst hname
    rw [Environment.lookup?, Environment.lookup?, hcaptures, hframe, Scope.lookup?, hvalue]
    rfl
  have hfunctions : ∀ name, env.scope.resolve? name = Scope.initial.resolve? name := by
    intro name
    rw [← henv]
    refine History.resolve?_after (History.start {}) Request.matchFirst name ?_
    intro request hmem hdefines
    simp only [Request.matchFirst, List.mem_cons, List.not_mem_nil, or_false] at hmem
    rcases hmem with rfl | rfl | rfl | rfl <;> cases hdefines
  obtain ⟨outcome, left, left', hrun, hrun', -⟩ := hlocal {} env hinitial hreached
    (Table.empty.insert "$0" (.text "a")) .empty Code.captureAfterMatch 16 0 hnames
    (fun name _ => (hfunctions name).symm)
  -- after the match it is still `a` here, and `x` there
  rw [Code.evaluate_captureAfterMatch {} _ (hframe ["x"])] at hrun
  have hcaptured : env.scope.lookup? ["x"] .empty "$0" = some (.text "x") := by
    rw [Scope.lookup?, hvalue]
    rfl
  rw [Code.evaluate_captureAfterMatch env _ hcaptured] at hrun'
  rw [← (Prod.mk.inj hrun).1] at hrun'
  have htext := Value.text.inj (Except.ok.inj (Prod.mk.inj hrun').1)
  revert htext
  decide

end Reckon
