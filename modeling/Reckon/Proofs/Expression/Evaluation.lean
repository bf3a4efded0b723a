/-
# Reckon.Proofs.Expression.Evaluation — running code is evaluating its tree

`Expression.evaluate` says what a formula computes without a stack: every part of a tree is
evaluated once, from left to right, before what takes it; the function of a call is looked up
when all its arguments have values. Selectors and the bodies of defined functions are evaluated
one level deeper, and the last level there is refuses both.

Running the post-order of a tree does the same (`Code.evaluate_postorder`): the outcome, value
or fault, and the captures it leaves. Every part of the code puts exactly one value on whatever
stack there is, which is what the induction shows.

A scope can hold functions whose body is the code of no tree; such a body is run as it is.
-/
import Reckon.Evaluation.Machine
import Reckon.Proofs.Expression.Basic

namespace Reckon

/-! ## Evaluating trees -/

/-- The value of a prefix operator. -/
def Machine.unary (op : Operator) (v : Value) : Run Value :=
  match op with
  | .negate => Machine.lift v.negate
  | _ => return .bool (!v.isTruthy)

/-- What a call of a defined function binds: its parameters, each to the argument in its
place. -/
def UserFunction.frame (f : UserFunction) (args : List Value) : Frame :=
  Table.ofList (f.parameters.zip args)

mutual

/-- Evaluates a tree at a depth of nesting that counts against the limit. -/
def Expression.evaluate (scope : Scope) (limit depth : Nat) (frame : Frame) :
    Expression → Run Value
  | .operand o => Machine.load scope frame o
  | .selector body =>
    if _h : depth < limit then body.evaluate scope limit (depth + 1) frame
    else throw (.recursionLimit limit)
  | .prefixed op _ e => do
    let v ← e.evaluate scope limit depth frame
    Machine.unary op v
  | .binary op _ a b => do
    let x ← a.evaluate scope limit depth frame
    let y ← b.evaluate scope limit depth frame
    Machine.binary op x y
  | .index target key => do
    let t ← target.evaluate scope limit depth frame
    let k ← key.evaluate scope limit depth frame
    Machine.lift (t.index k)
  | .call name args => do
    let vs ← Expression.evaluateAll scope limit depth frame args
    match scope.resolve? name with
    | none => throw (.undefinedFunction name)
    | some callee =>
      if args.length ≠ callee.arity then throw (.arity name args.length callee.arity)
      else
        match callee with
        | .builtin => Machine.lift (Machine.callBuiltin name vs)
        | .host f => Machine.lift (Machine.callHost name f vs)
        | .user f =>
          if _h : depth < limit then
            match f.body.tree? with
            | some e => e.evaluate scope limit (depth + 1) (f.frame vs)
            | none => f.body.run scope limit (depth + 1) (f.frame vs)
          else throw (.recursionLimit limit)
termination_by e => (limit - depth, sizeOf e)

/-- Evaluates trees from left to right. -/
def Expression.evaluateAll (scope : Scope) (limit depth : Nat) (frame : Frame) :
    List Expression → Run (List Value)
  | [] => return []
  | e :: rest => do
    let v ← e.evaluate scope limit depth frame
    let vs ← Expression.evaluateAll scope limit depth frame rest
    return v :: vs
termination_by es => (limit - depth, sizeOf es)

end

/-! ## The names of a call -/

namespace Table

variable {α : Type}

theorem get?_foldl_insert_of_notMem {name : String} {pairs : List (String × α)}
    (h : name ∉ pairs.map Prod.fst) (table : Table α) :
    (pairs.foldl (fun table (name, value) => table.insert name value) table).get? name
      = table.get? name := by
  induction pairs generalizing table with
  | nil => rfl
  | cons pair pairs ih =>
      rw [List.map_cons, List.mem_cons, not_or] at h
      rw [List.foldl_cons, ih h.2, get?_insert, if_neg h.1]

/-- Names that are in none of the pairs are not bound. -/
theorem get?_ofList_of_notMem {name : String} {pairs : List (String × α)}
    (h : name ∉ pairs.map Prod.fst) : (ofList pairs).get? name = none :=
  get?_foldl_insert_of_notMem h empty

/-- A name is bound to the value of the last pair it is in. -/
theorem get?_ofList_append_cons {name : String} {after : List (String × α)}
    (h : name ∉ after.map Prod.fst) (before : List (String × α)) (value : α) :
    (ofList (before ++ (name, value) :: after)).get? name = some value := by
  rw [ofList, List.foldl_append, List.foldl_cons, get?_foldl_insert_of_notMem h, get?_insert,
    if_pos rfl]

theorem isSome_get?_insert {table : Table α} {name : String}
    (h : (table.get? name).isSome = true) (other : String) (value : α) :
    ((table.insert other value).get? name).isSome = true := by
  rw [get?_insert]
  split
  · rfl
  · exact h

theorem isSome_get?_foldl_insert {name : String} {pairs : List (String × α)} {table : Table α}
    (h : (table.get? name).isSome = true ∨ name ∈ pairs.map Prod.fst) :
    ((pairs.foldl (fun table (name, value) => table.insert name value) table).get? name).isSome
      = true := by
  induction pairs generalizing table with
  | nil => exact h.resolve_right (List.not_mem_nil)
  | cons pair pairs ih =>
      rw [List.foldl_cons]
      apply ih
      rcases h with h | h
      · exact .inl (isSome_get?_insert h _ _)
      · rcases List.mem_cons.1 h with rfl | h
        · rw [get?_insert, if_pos rfl]
          exact .inl rfl
        · exact .inr h

end Table

namespace UserFunction

variable (f : UserFunction) (args : List Value)

/-- A call binds nothing but parameters. -/
theorem get?_frame_of_notMem {name : String} (h : name ∉ f.parameters) :
    (f.frame args).get? name = none := by
  refine Table.get?_ofList_of_notMem fun hmem => h ?_
  obtain ⟨pair, hpair, rfl⟩ := List.mem_map.1 hmem
  exact (List.of_mem_zip hpair).1

/-- A call binds all parameters. -/
theorem isSome_get?_frame {name : String} (h : name ∈ f.parameters)
    (hargs : args.length = f.arity) : ((f.frame args).get? name).isSome = true := by
  refine Table.isSome_get?_foldl_insert (.inr ?_)
  rw [List.map_fst_zip (Nat.le_of_eq hargs.symm)]
  exact h

/-- A call binds a parameter to the argument in its place; of parameters with one name the last
one counts. -/
theorem get?_frame {i : Nat} (hi : i < f.parameters.length) (hargs : args.length = f.arity)
    (hlast : f.parameters[i] ∉ f.parameters.drop (i + 1)) :
    (f.frame args).get? f.parameters[i] = args[i]? := by
  -- the pair of the parameter and its argument, and no later pair with the name
  have hlen : args.length = f.parameters.length := hargs
  have hi' : i < args.length := by omega
  have hzip : f.parameters.zip args
      = (f.parameters.zip args).take i
        ++ (f.parameters[i], args[i]) :: (f.parameters.zip args).drop (i + 1) := by
    have hlt : i < (f.parameters.zip args).length := by
      rw [List.length_zip]
      omega
    have hget : (f.parameters.zip args)[i] = (f.parameters[i], args[i]) := List.getElem_zip
    rw [← hget, ← List.drop_eq_getElem_cons hlt, List.take_append_drop]
  have hafter : f.parameters[i] ∉ ((f.parameters.zip args).drop (i + 1)).map Prod.fst := by
    rw [List.map_drop, List.map_fst_zip (Nat.le_of_eq hlen.symm)]
    exact hlast
  rw [frame, hzip, Table.get?_ofList_append_cons hafter, List.getElem?_eq_getElem hi']

end UserFunction

/-! ## Depth -/

namespace Machine

/-- How the machine at a depth runs the code of selectors and of defined functions. -/
def inside (scope : Scope) (limit depth : Nat) (frame : Frame) (code : Code) : Run Value :=
  if depth < limit then code.run scope limit (depth + 1) frame else throw (.recursionLimit limit)

/-- The levels count down the budget. -/
theorem run_eq_runWith (scope : Scope) (limit depth : Nat) (frame : Frame) (code : Code) :
    code.run scope limit depth frame = runWith scope (inside scope limit depth) frame code := by
  rw [Code.run]
  by_cases h : depth < limit
  · obtain ⟨budget, hbudget⟩ := Nat.exists_eq_add_of_lt h
    have hinside : inside scope limit depth = runWithin scope limit budget := by
      funext frame code
      rw [inside, if_pos h, Code.run]
      congr 1
      omega
    rw [show limit - depth = budget + 1 by omega, runWithin, hinside]
  · have hinside : inside scope limit depth = fun _ _ => throw (.recursionLimit limit) := by
      funext frame code
      rw [inside, if_neg h]
    rw [show limit - depth = 0 by omega, runWithin, hinside]

end Machine

/-! ## The machine on the post-order of a tree -/

namespace Expression

variable {scope : Scope} {limit depth : Nat} {frame : Frame}

/-- So many trees have so many values. -/
theorem evaluateAll_bind_congr {α : Type} (es : List Expression) {f g : List Value → Run α}
    (h : ∀ vs, vs.length = es.length → f vs = g vs) :
    evaluateAll scope limit depth frame es >>= f = evaluateAll scope limit depth frame es >>= g := by
  induction es generalizing f g with
  | nil =>
      rw [evaluateAll, pure_bind, pure_bind]
      exact h [] rfl
  | cons e es ih =>
      simp only [evaluateAll, bind_assoc, pure_bind]
      apply bind_congr
      intro v
      apply ih
      intro vs hvs
      apply h (v :: vs)
      rw [List.length_cons, List.length_cons, hvs]

/-- Code puts the value of a tree on the stack. -/
def Pushes (scope : Scope) (limit depth : Nat) (frame : Frame) (e : Expression) : Prop :=
  ∀ stack, e.postorder.foldlM (Machine.step scope (Machine.inside scope limit depth) frame) stack
    = e.evaluate scope limit depth frame >>= fun v => pure (v :: stack)

/-- The code of trees puts their values on the stack, that of the last one on top. -/
theorem foldlM_postorderAll {es : List Expression}
    (each : ∀ e ∈ es, Pushes scope limit depth frame e) (stack : List Value) :
    (postorderAll es).foldlM (Machine.step scope (Machine.inside scope limit depth) frame) stack
      = evaluateAll scope limit depth frame es >>= fun vs => pure (vs.reverse ++ stack) := by
  induction es generalizing stack with
  | nil =>
      rw [postorderAll, evaluateAll, pure_bind]
      rfl
  | cons e es ih =>
      rw [postorderAll, List.foldlM_append, each e List.mem_cons_self]
      simp only [evaluateAll, bind_assoc, pure_bind]
      apply bind_congr
      intro v
      rw [ih fun e' he' => each e' (List.mem_cons_of_mem _ he')]
      simp only [List.reverse_cons, List.append_assoc, List.singleton_append]

/-- The code of a call takes the arguments off the stack in their order. -/
theorem callStep_reverse (name : String) (stack : List Value) {vs : List Value} :
    Machine.callStep scope (Machine.inside scope limit depth) name vs.length (vs.reverse ++ stack)
      = (match scope.resolve? name with
        | none => throw (.undefinedFunction name)
        | some callee =>
          if vs.length ≠ callee.arity then throw (.arity name vs.length callee.arity)
          else Machine.call (Machine.inside scope limit depth) name callee vs)
        >>= fun v => pure (v :: stack) := by
  have htake : Machine.takeArguments vs.length (vs.reverse ++ stack) = .ok (vs, stack) := by
    have hlen : ¬ (vs.reverse ++ stack).length < vs.length := by
      rw [List.length_append, List.length_reverse]
      omega
    rw [Machine.takeArguments, if_neg hlen, List.take_left' List.length_reverse,
      List.drop_left' List.length_reverse, List.reverse_reverse]
  rw [Machine.callStep]
  cases scope.resolve? name with
  | none => rfl
  | some callee =>
      dsimp only
      by_cases harity : vs.length ≠ callee.arity
      · rw [if_pos harity, if_pos harity]
        rfl
      · rw [if_neg harity, if_neg harity, htake]
        rfl

/-- The contents of a selector are run as they are evaluated, if the next level does so. -/
theorem inside_selector (hinside : depth < limit → ∀ frame (e : Expression),
      Code.run scope limit (depth + 1) frame e.postorder
        = e.evaluate scope limit (depth + 1) frame) (body : Expression) :
    Machine.inside scope limit depth frame body.postorder
      = (selector body).evaluate scope limit depth frame := by
  rw [Machine.inside, evaluate]
  split
  · rename_i h
    exact hinside h frame body
  · rfl

/-- So is the body of a function that has a tree. -/
theorem inside_body (hinside : depth < limit → ∀ frame (e : Expression),
      Code.run scope limit (depth + 1) frame e.postorder
        = e.evaluate scope limit (depth + 1) frame) (code : Code) :
    Machine.inside scope limit depth frame code
      = if _h : depth < limit then
          match code.tree? with
          | some e => e.evaluate scope limit (depth + 1) frame
          | none => code.run scope limit (depth + 1) frame
        else throw (.recursionLimit limit) := by
  rw [Machine.inside]
  by_cases h : depth < limit
  · rw [if_pos h, dif_pos h]
    cases htree : code.tree? with
    | none => rfl
    | some e =>
        rw [← Code.tree?_eq_some_iff.1 htree]
        exact hinside h frame e
  · rw [if_neg h, dif_neg h]

/-- If the next level runs code as it evaluates trees, code puts the value of its tree on the
stack. -/
theorem pushes_of_inside (hinside : depth < limit → ∀ frame (e : Expression),
      Code.run scope limit (depth + 1) frame e.postorder
        = e.evaluate scope limit (depth + 1) frame) (e : Expression) :
    Pushes scope limit depth frame e := by
  induction e with
  | operand o =>
      intro stack
      rw [evaluate, postorder, List.foldlM_cons]
      exact bind_pure _
  | selector body _ =>
      intro stack
      rw [postorder, List.foldlM_cons, Machine.step, inside_selector hinside]
      exact bind_pure _
  | prefixed op isPrefix e ih =>
      intro stack
      rw [postorder, List.foldlM_append, ih, evaluate]
      simp only [bind_assoc, pure_bind, List.foldlM_cons, List.foldlM_nil, bind_pure]
      apply bind_congr
      intro v
      cases op with
      | negate => rfl
      | not => rfl
      | _ => cases isPrefix
  | binary op isBinary a b iha ihb =>
      intro stack
      rw [postorder, List.foldlM_append, List.foldlM_append, iha, evaluate]
      simp only [bind_assoc, pure_bind, List.foldlM_cons, List.foldlM_nil, bind_pure]
      apply bind_congr
      intro x
      rw [ihb, bind_assoc]
      apply bind_congr
      intro y
      rw [pure_bind]
      cases op with
      | negate => cases isBinary
      | not => cases isBinary
      | _ => rfl
  | index target key iht ihk =>
      intro stack
      rw [postorder, List.foldlM_append, List.foldlM_append, iht, evaluate]
      simp only [bind_assoc, pure_bind, List.foldlM_cons, List.foldlM_nil, bind_pure]
      apply bind_congr
      intro t
      rw [ihk, bind_assoc]
      rfl
  | call name args ih =>
      intro stack
      rw [postorder, List.foldlM_append, foldlM_postorderAll ih, evaluate]
      simp only [bind_assoc, pure_bind, List.foldlM_cons, List.foldlM_nil, bind_pure]
      apply evaluateAll_bind_congr args
      intro vs hvs
      -- the arguments lie on the stack in reverse
      rw [Machine.step, ← hvs, callStep_reverse]
      congr 1
      cases scope.resolve? name with
      | none => rfl
      | some callee =>
          dsimp only
          congr 1
          cases callee with
          | builtin => rfl
          | host f => rfl
          | user f => exact inside_body hinside f.body

/-- The value on the stack is the result. -/
theorem run_of_pushes {e : Expression} (h : Pushes scope limit depth frame e) :
    Code.run scope limit depth frame e.postorder = e.evaluate scope limit depth frame := by
  rw [Machine.run_eq_runWith, Machine.runWith, h, bind_assoc]
  exact bind_pure _

/-- Running the code of a tree is evaluating the tree. -/
theorem run_postorder (e : Expression) (depth : Nat) (frame : Frame) :
    Code.run scope limit depth frame e.postorder = e.evaluate scope limit depth frame := by
  -- induction on the levels that are left
  induction hlevels : limit - depth generalizing depth frame e with
  | zero =>
      have hlast : ¬ depth < limit := by omega
      apply run_of_pushes
      exact pushes_of_inside (fun h => absurd h hlast) e
  | succ levels ih =>
      have hnext : limit - (depth + 1) = levels := by omega
      apply run_of_pushes
      exact pushes_of_inside (fun _ frame e => ih e (depth + 1) frame hnext) e

end Expression

/-- Running the code of a tree gives the outcome and leaves the captures of evaluating the tree,
in which a call of a defined function binds each parameter to the argument in its place, and
nothing else. -/
theorem Code.evaluate_postorder (env : Environment) (limit depth : Nat) (frame : Frame)
    (e : Expression) :
    Code.evaluate env limit depth frame e.postorder
        = (e.evaluate env.scope limit depth frame).run env.captures ∧
      ∀ (f : UserFunction) (args : List Value), args.length = f.arity →
        (∀ name, name ∉ f.parameters → (f.frame args).get? name = none) ∧
        ∀ (i : Nat) (hi : i < f.parameters.length),
          f.parameters[i] ∉ f.parameters.drop (i + 1) →
          (f.frame args).get? f.parameters[i] = args[i]? := by
  refine ⟨?_, fun f args hargs => ⟨?_, ?_⟩⟩
  · rw [Code.evaluate, Expression.run_postorder]
  · intro name hname
    exact f.get?_frame_of_notMem args hname
  · intro i hi hlast
    exact f.get?_frame args hi hargs hlast

end Reckon
