/-
# Reckon.Proofs.Evaluation.Acceptance — only post-orders are evaluated

A host can hand over any list of instructions. A run checks nothing in advance: it notices what is
wrong when it finds too few values on the stack, or too many at the end. That is enough. A run can
be followed on a stack of trees that has a tree for each value on the stack; while the run goes
well, the trees can be grown by the same instructions, and a run that leaves one value leaves the
tree whose post-order the code is. Nothing is skipped, so the contents of a selector have been run
by then, and they are a post-order for the same reason.
-/
import Mathlib.Logic.ExistsUnique
import Reckon.Proofs.Code.Parts
import Reckon.Proofs.Evaluation.Run

namespace Reckon

/-! ## What runs yield -/

namespace Run

variable {α β : Type} {P : α → Prop} {Q : β → Prop}

/-- What the run ends in, if it ends well, has the property, whatever the captures are. -/
def Yields (P : α → Prop) (x : Run α) : Prop :=
  ∀ captures a left, x.run captures = (.ok a, left) → P a

theorem yields_pure {a : α} (h : P a) : Yields P (pure a) := by
  intro captures a' left hrun
  cases hrun
  exact h

theorem yields_throw (e : Fault) : Yields P (throw e : Run α) := by
  intro captures a left hrun
  cases hrun

theorem yields_lift {x : Except Fault α} (h : ∀ a, x = .ok a → P a) :
    Yields P (Machine.lift x) := by
  intro captures a left hrun
  exact h a (congrArg Prod.fst hrun)

theorem Yields.bind {x : Run α} {f : α → Run β} (hx : Yields P x) (hf : ∀ a, P a → Yields Q (f a)) :
    Yields Q (x >>= f) := by
  intro captures b left hrun
  rcases hfirst : x.run captures with ⟨e | a, middle⟩
  · rw [run_bind_of_error hfirst] at hrun
    cases hrun
  · rw [run_bind_of_ok hfirst] at hrun
    exact hf a (hx captures a middle hfirst) middle b left hrun

theorem yields_bind {x : Run α} {f : α → Run β} (hf : ∀ a, Yields Q (f a)) : Yields Q (x >>= f) :=
  Yields.bind (P := fun _ => True) (fun _ _ _ _ => trivial) fun a _ => hf a

end Run

/-! ## The stack of trees -/

namespace Machine

theorem result_eq_ok {stack : List Value} {v : Value} (h : result stack = .ok v) : stack = [v] := by
  unfold result at h
  split at h
  · cases h
    rfl
  · cases h
  · cases h

variable {scope : Scope} {inside : Frame → Code → Run Value} {frame : Frame}
variable {trees : List Expression} {stack : List Value}

/-- The instruction grows the trees, and to as many as there are values on the stack. -/
def Follows (i : Instruction) (trees : List Expression) (stack : List Value) : Prop :=
  ∃ trees', i.grow? trees = some trees' ∧ trees'.length = stack.length

theorem operator_yields (op : Operator) (hlen : trees.length = stack.length) :
    (step scope inside frame stack (.operator op)).Yields (Follows (.operator op) trees) := by
  rcases stack with _ | ⟨b, _ | ⟨a, stack⟩⟩
  · cases op <;> exact Run.yields_throw _
  · obtain ⟨e, rfl⟩ := List.length_eq_one_iff.1 hlen
    cases op with
    | negate =>
        exact Run.yields_bind fun v => Run.yields_pure ⟨[.prefixed .negate rfl e], rfl, rfl⟩
    | not => exact Run.yields_pure ⟨[.prefixed .not rfl e], rfl, rfl⟩
    | _ => exact Run.yields_throw _
  · rcases trees with _ | ⟨e, _ | ⟨d, trees⟩⟩
    · cases hlen
    · cases hlen
    · have hrest : trees.length = stack.length := Nat.succ.inj (Nat.succ.inj hlen)
      cases op with
      | negate =>
          exact Run.yields_bind fun v =>
            Run.yields_pure ⟨.prefixed .negate rfl e :: d :: trees, rfl, hlen⟩
      | not => exact Run.yields_pure ⟨.prefixed .not rfl e :: d :: trees, rfl, hlen⟩
      | _ =>
          exact Run.yields_bind fun v =>
            Run.yields_pure ⟨.binary _ rfl d e :: trees, rfl, congrArg (· + 1) hrest⟩

theorem callStep_yields (name : String) (count : Nat) (hlen : trees.length = stack.length) :
    (callStep scope inside name count stack).Yields (Follows (.call name count) trees) := by
  rw [callStep]
  cases scope.resolve? name with
  | none => exact Run.yields_throw _
  | some callee =>
      dsimp only
      split
      · exact Run.yields_throw _
      · refine (Run.yields_lift fun taken htake => takeArguments_eq_ok htake).bind ?_
        rintro ⟨args, rest⟩ ⟨hcount, -, hrest⟩
        refine Run.yields_bind fun v => Run.yields_pure ?_
        refine ⟨.call name (trees.take count).reverse :: trees.drop count, ?_, ?_⟩
        · rw [Instruction.grow?, if_neg (by omega)]
        · have hdrop : (trees.drop count).length = rest.length := by
            rw [show rest = stack.drop count from hrest, List.length_drop, List.length_drop, hlen]
          exact congrArg (· + 1) hdrop

/-- What an instruction does to the values it does to the trees. -/
theorem step_yields
    (hinside : ∀ body, (inside frame body).Yields fun _ => ∃ e : Expression, e.postorder = body)
    (hlen : trees.length = stack.length) (i : Instruction) :
    (step scope inside frame stack i).Yields (Follows i trees) := by
  cases i with
  | operand o =>
      exact Run.yields_bind fun v =>
        Run.yields_pure ⟨.operand o :: trees, rfl, congrArg (· + 1) hlen⟩
  | operator op => exact operator_yields op hlen
  | selector body =>
      refine (hinside body).bind ?_
      rintro v ⟨e, he⟩
      have hgrow : Code.grow? body [] = some [e] :=
        Code.tree?_eq_some.1 (Code.tree?_eq_some_iff.2 he)
      refine Run.yields_pure ⟨.selector e :: trees, ?_, congrArg (· + 1) hlen⟩
      rw [Instruction.grow?, hgrow]
  | index =>
      rcases stack with _ | ⟨b, _ | ⟨a, stack⟩⟩
      · exact Run.yields_throw _
      · exact Run.yields_throw _
      · rcases trees with _ | ⟨key, _ | ⟨target, trees⟩⟩
        · cases hlen
        · cases hlen
        · exact Run.yields_bind fun v =>
            Run.yields_pure ⟨.index target key :: trees, rfl, Nat.succ.inj hlen⟩
  | call name count => exact callStep_yields name count hlen

theorem foldlM_step_yields
    (hinside : ∀ body, (inside frame body).Yields fun _ => ∃ e : Expression, e.postorder = body)
    (code : Code) (hlen : trees.length = stack.length) :
    (code.foldlM (step scope inside frame) stack).Yields fun stack' =>
      ∃ trees', Code.grow? code trees = some trees' ∧ trees'.length = stack'.length := by
  induction code generalizing trees stack with
  | nil => exact Run.yields_pure ⟨trees, rfl, hlen⟩
  | cons i code ih =>
      rw [List.foldlM_cons]
      refine (step_yields hinside hlen i).bind ?_
      rintro stack' ⟨trees', hgrow, hlen'⟩
      rw [Code.grow?, hgrow]
      exact ih hlen'

/-- A level that ends in a value has run a post-order. -/
theorem runWith_yields
    (hinside : ∀ body, (inside frame body).Yields fun _ => ∃ e : Expression, e.postorder = body)
    (code : Code) :
    (runWith scope inside frame code).Yields fun _ => ∃ e : Expression, e.postorder = code := by
  have hempty : ([] : List Expression).length = ([] : List Value).length := rfl
  refine (foldlM_step_yields hinside code hempty).bind ?_
  rintro stack ⟨trees, hgrow, hlen⟩
  refine Run.yields_lift fun v hv => ?_
  rw [result_eq_ok hv] at hlen
  obtain ⟨e, rfl⟩ := List.length_eq_one_iff.1 hlen
  exact ⟨e, Code.tree?_eq_some_iff.1 (Code.tree?_eq_some.2 hgrow)⟩

theorem runWithin_yields (scope : Scope) (limit budget : Nat) (frame : Frame) (code : Code) :
    (runWithin scope limit budget frame code).Yields fun _ =>
      ∃ e : Expression, e.postorder = code := by
  induction budget generalizing code with
  | zero => exact runWith_yields (fun _ => Run.yields_throw _) code
  | succ budget ih => exact runWith_yields ih code

end Machine

/-! ## Code that is no post-order -/

/-- How many values an instruction takes off the stack. -/
def Instruction.demand : Instruction → Nat
  | operand _ | selector _ => 0
  | operator op => if op.isPrefix then 1 else 2
  | index => 2
  | call _ count => count

theorem Instruction.demand_le_of_grow? {i : Instruction} {trees trees' : List Expression}
    (h : i.grow? trees = some trees') : i.demand ≤ trees.length := by
  cases i with
  | operand o => exact Nat.zero_le _
  | selector body => exact Nat.zero_le _
  | operator op =>
      rw [grow?] at h
      rw [demand]
      split at h
      · rename_i hprefix
        rw [if_pos hprefix]
        cases trees with
        | nil => cases h
        | cons e trees => simp
      · rename_i hprefix
        rw [if_neg hprefix]
        rcases trees with _ | ⟨b, _ | ⟨a, trees⟩⟩
        · cases h
        · cases h
        · simp
  | index =>
      rcases trees with _ | ⟨b, _ | ⟨a, trees⟩⟩
      · cases h
      · cases h
      · simp [demand]
  | call name count =>
      rw [grow?] at h
      split at h
      · cases h
      · rename_i hlen
        exact Nat.not_lt.1 hlen

namespace Expression

theorem grow?_postorderAll_append (es : List Expression) (code : Code) :
    Code.grow? (postorderAll es ++ code) [] = Code.grow? code es.reverse := by
  rw [grow?_postorderAll (fun e _ => grow?_postorder e), List.append_nil]

/-- Trees that are not exactly one are no post-order of one tree. -/
theorem postorder_ne_postorderAll {es : List Expression} (h : es.length ≠ 1) (e : Expression) :
    e.postorder ≠ postorderAll es := by
  intro heq
  have htree := tree?_postorder e
  rw [heq, Code.tree?_eq_some, ← List.append_nil (postorderAll es), grow?_postorderAll_append,
    Code.grow?, Option.some.injEq] at htree
  apply h
  rw [← List.length_reverse, htree, List.length_singleton]

/-- No post-order has an instruction that wants more than the trees before it. -/
theorem postorder_ne_of_lt_demand {es : List Expression} {i : Instruction}
    (h : es.length < i.demand) (after : Code) (e : Expression) :
    e.postorder ≠ postorderAll es ++ i :: after := by
  intro heq
  have htree := tree?_postorder e
  rw [heq, Code.tree?_eq_some, grow?_postorderAll_append, Code.grow?] at htree
  cases hgrow : i.grow? es.reverse with
  | none =>
      rw [hgrow] at htree
      cases htree
  | some trees =>
      have hle := Instruction.demand_le_of_grow? hgrow
      rw [List.length_reverse] at hle
      omega

/-- The contents of the selectors of a tree are trees. -/
theorem exists_postorder_of_mem_parts {e : Expression} {body : Code}
    (h : .selector body ∈ Code.parts e.postorder) : ∃ b : Expression, b.postorder = body := by
  induction e with
  | operand o => cases mem_parts_operand.1 h
  | selector contents ih =>
      rcases mem_parts_selector.1 h with heq | h
      · cases heq
        exact ⟨contents, rfl⟩
      · exact ih h
  | prefixed op isPrefix e ih =>
      rcases mem_parts_prefixed.1 h with h | heq
      · exact ih h
      · cases heq
  | binary op isBinary a b iha ihb =>
      rcases mem_parts_binary.1 h with (h | h) | heq
      · exact iha h
      · exact ihb h
      · cases heq
  | index target key iht ihk =>
      rcases mem_parts_index.1 h with (h | h) | heq
      · exact iht h
      · exact ihk h
      · cases heq
  | call name args ih =>
      rcases mem_parts_call.1 h with ⟨e, he, h⟩ | heq
      · exact ih e he h
      · cases heq

end Expression

namespace Code

variable {env : Environment} {limit depth : Nat} {frame : Frame} {code : Code}

theorem exists_postorder_of_evaluate_eq_ok {v : Value}
    (h : (code.evaluate env limit depth frame).1 = .ok v) :
    ∃ e : Expression, e.postorder = code :=
  Machine.runWithin_yields env.scope limit (limit - depth) frame code env.captures v _
    (Prod.ext h rfl)

theorem evaluate_eq_error (h : ∀ e : Expression, e.postorder ≠ code) :
    ∃ fault, (code.evaluate env limit depth frame).1 = .error fault := by
  cases hrun : (code.evaluate env limit depth frame).1 with
  | error fault => exact ⟨fault, rfl⟩
  | ok v =>
      obtain ⟨e, he⟩ := exists_postorder_of_evaluate_eq_ok hrun
      exact absurd he (h e)

/-- Code that evaluates to a value is the post-order of exactly one tree, and so are the contents
of each selector in it. So code fails in which values are left over, or none is left, or in which
an instruction comes when there are fewer values than it takes. -/
theorem evaluate_accepts (env : Environment) (limit depth : Nat) (frame : Frame) (code : Code) :
    (∀ v, (code.evaluate env limit depth frame).1 = .ok v →
      (∃! e : Expression, e.postorder = code) ∧
        ∀ body, .selector body ∈ parts code → ∃! e : Expression, e.postorder = body) ∧
    (∀ es : List Expression, es.length ≠ 1 → code = Expression.postorderAll es →
      ∃ fault, (code.evaluate env limit depth frame).1 = .error fault) ∧
    (∀ (es : List Expression) (i : Instruction) (after : Code), es.length < i.demand →
      code = Expression.postorderAll es ++ i :: after →
      ∃ fault, (code.evaluate env limit depth frame).1 = .error fault) := by
  have hunique : ∀ {part : Code}, (∃ e : Expression, e.postorder = part) →
      ∃! e : Expression, e.postorder = part := by
    rintro _ ⟨e, rfl⟩
    exact ⟨e, rfl, fun f hf => Expression.postorder_injective hf⟩
  refine ⟨fun v hv => ?_, ?_, ?_⟩
  · obtain ⟨e, rfl⟩ := exists_postorder_of_evaluate_eq_ok hv
    exact ⟨hunique ⟨e, rfl⟩, fun body hbody =>
      hunique (Expression.exists_postorder_of_mem_parts hbody)⟩
  · rintro es hes rfl
    exact evaluate_eq_error (Expression.postorder_ne_postorderAll hes)
  · rintro es i after hes rfl
    exact evaluate_eq_error (Expression.postorder_ne_of_lt_demand hes after)

-- the contents of a selector are no tree, though the index would have its two values
example : (evaluate {} 16 0 .empty [.operand (.text "x"), .selector [.operand (.text "y"),
    .operand (.text "z")], .index]).1 = .error (.inconsistent (.leftoverValues 2)) := by
  rfl

end Code

end Reckon
