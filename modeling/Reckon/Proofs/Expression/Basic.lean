/-
# Reckon.Proofs.Expression.Basic — formulas as trees, and code as their post-order

Code is a list of instructions; what it computes is a tree. An `Expression` is that tree, and
`Expression.postorder` writes it down as code, operands before what takes them. A prefix
operator and a binary one carry the proof that they are one, so there is no tree in which an
operator has the wrong number of operands.

`Code.tree?` goes the other way: it reads code on a stack of trees, as a run reads it on a
stack of values. The two are inverse to each other (`Code.tree?_eq_some_iff`). Hence a tree is
determined by its post-order, and code that is no post-order at all is recognised as such.
-/
import Reckon.Code.Basic

namespace Reckon

/-- A formula as a tree. -/
inductive Expression where
  | operand (o : Operand)
  /-- The contents of a selector, as one operand of an `index`. -/
  | selector (body : Expression)
  | prefixed (op : Operator) (isPrefix : op.isPrefix = true) (e : Expression)
  | binary (op : Operator) (isBinary : op.isPrefix = false) (a b : Expression)
  | index (target key : Expression)
  | call (name : String) (args : List Expression)

namespace Expression

/-- Induction over a tree, in which all arguments of a call are below the call. -/
@[elab_as_elim, induction_eliminator]
theorem induct {motive : Expression → Prop}
    (operand : ∀ o, motive (.operand o))
    (selector : ∀ body, motive body → motive (.selector body))
    (prefixed : ∀ op isPrefix e, motive e → motive (.prefixed op isPrefix e))
    (binary : ∀ op isBinary a b, motive a → motive b → motive (.binary op isBinary a b))
    (index : ∀ target key, motive target → motive key → motive (.index target key))
    (call : ∀ name args, (∀ e ∈ args, motive e) → motive (.call name args)) (e : Expression) :
    motive e := by
  refine Expression.rec (motive_1 := motive) (motive_2 := fun es => ∀ e ∈ es, motive e) operand
    selector prefixed binary index call ?_ ?_ e
  · intro e he
    cases he
  · intro e rest he hrest x hx
    rcases List.mem_cons.1 hx with rfl | hx
    · exact he
    · exact hrest x hx

/-! ## Post-order -/

mutual

/-- A tree as code: the operands of a node in their order, and then the node. -/
def postorder : Expression → List Instruction
  | .operand o => [.operand o]
  | .selector body => [.selector body.postorder]
  | .prefixed op _ e => e.postorder ++ [.operator op]
  | .binary op _ a b => a.postorder ++ b.postorder ++ [.operator op]
  | .index target key => target.postorder ++ key.postorder ++ [.index]
  | .call name args => postorderAll args ++ [.call name args.length]

/-- Trees as code, one after the other. -/
def postorderAll : List Expression → List Instruction
  | [] => []
  | e :: rest => e.postorder ++ postorderAll rest

end

theorem postorderAll_append (es fs : List Expression) :
    postorderAll (es ++ fs) = postorderAll es ++ postorderAll fs := by
  induction es with
  | nil => rfl
  | cons e es ih =>
      rw [List.cons_append, postorderAll, postorderAll, ih, List.append_assoc]

theorem postorderAll_singleton (e : Expression) : postorderAll [e] = e.postorder := by
  rw [postorderAll, postorderAll, List.append_nil]

end Expression

/-! ## Reading code back -/

mutual

/-- What an instruction does to a stack of trees that has its top first: it takes the trees of
its operands off and puts its own tree on. -/
def Instruction.grow? : Instruction → List Expression → Option (List Expression)
  | .operand o, trees => some (.operand o :: trees)
  | .operator op, trees =>
    if h : op.isPrefix = true then
      match trees with
      | e :: rest => some (.prefixed op h e :: rest)
      | [] => none
    else
      match trees with
      | b :: a :: rest => some (.binary op (Bool.eq_false_iff.2 h) a b :: rest)
      | _ => none
  | .selector body, trees =>
    match Code.grow? body [] with
    | some [e] => some (.selector e :: trees)
    | _ => none
  | .index, trees =>
    match trees with
    | key :: target :: rest => some (.index target key :: rest)
    | _ => none
  | .call name count, trees =>
    if trees.length < count then none
    else some (.call name (trees.take count).reverse :: trees.drop count)

/-- What code does to a stack of trees. -/
def Code.grow? : List Instruction → List Expression → Option (List Expression)
  | [], trees => some trees
  | i :: rest, trees =>
    match i.grow? trees with
    | some trees => Code.grow? rest trees
    | none => none

end

/-- The tree that code is the post-order of. -/
def Code.tree? (code : Code) : Option Expression :=
  match Code.grow? code [] with
  | some [e] => some e
  | _ => none

theorem Code.tree?_eq_some {code : Code} {e : Expression} :
    code.tree? = some e ↔ Code.grow? code [] = some [e] := by
  unfold Code.tree?
  split
  · rename_i e' h
    rw [h, Option.some.injEq, Option.some.injEq, List.cons.injEq]
    exact ⟨fun he => ⟨he, rfl⟩, fun he => he.1⟩
  · rename_i h
    constructor
    · intro he
      cases he
    · intro he
      exact absurd he (h e)

namespace Expression

/-- Reading the post-order of trees puts these trees on the stack. -/
theorem grow?_postorderAll {es : List Expression}
    (each : ∀ e ∈ es, ∀ code trees,
      Code.grow? (e.postorder ++ code) trees = Code.grow? code (e :: trees))
    (code : Code) (trees : List Expression) :
    Code.grow? (postorderAll es ++ code) trees = Code.grow? code (es.reverse ++ trees) := by
  induction es generalizing trees with
  | nil => rfl
  | cons e es ih =>
      rw [postorderAll, List.append_assoc, each e List.mem_cons_self,
        ih fun e' he' => each e' (List.mem_cons_of_mem e he'), List.reverse_cons,
        List.append_assoc, List.singleton_append]

/-- Reading the post-order of a tree puts this tree on the stack. -/
theorem grow?_postorder (e : Expression) (code : Code) (trees : List Expression) :
    Code.grow? (e.postorder ++ code) trees = Code.grow? code (e :: trees) := by
  induction e generalizing code trees with
  | operand o => rfl
  | selector body ih =>
      have h : Code.grow? body.postorder [] = some [body] := by
        have := ih [] []
        rwa [List.append_nil] at this
      rw [postorder, List.singleton_append, Code.grow?, Instruction.grow?, h]
  | prefixed op isPrefix e ih =>
      rw [postorder, List.append_assoc, ih, List.singleton_append, Code.grow?,
        Instruction.grow?, dif_pos isPrefix]
  | binary op isBinary a b iha ihb =>
      rw [postorder, List.append_assoc, List.append_assoc, iha, ihb, List.singleton_append,
        Code.grow?, Instruction.grow?, dif_neg (Bool.eq_false_iff.1 isBinary)]
  | index target key iht ihk =>
      rw [postorder, List.append_assoc, List.append_assoc, iht, ihk]
      rfl
  | call name args ih =>
      have hlen : ¬ (args.reverse ++ trees).length < args.length := by
        rw [List.length_append, List.length_reverse]
        omega
      rw [postorder, List.append_assoc, grow?_postorderAll ih, List.singleton_append,
        Code.grow?, Instruction.grow?, if_neg hlen]
      have htake : (args.reverse ++ trees).take args.length = args.reverse :=
        List.take_left' List.length_reverse
      have hdrop : (args.reverse ++ trees).drop args.length = trees :=
        List.drop_left' List.length_reverse
      rw [htake, hdrop, List.reverse_reverse]

theorem tree?_postorder (e : Expression) : Code.tree? e.postorder = some e := by
  have h := grow?_postorder e [] []
  rw [List.append_nil] at h
  exact Code.tree?_eq_some.2 h

/-- Different trees have different post-orders. -/
theorem postorder_injective {e f : Expression} (h : e.postorder = f.postorder) : e = f := by
  have he := tree?_postorder e
  rw [h, tree?_postorder f] at he
  exact (Option.some.inj he).symm

end Expression

mutual

/-- An instruction that grows a stack of trees is the last one of the post-order of the tree on
top; the trees that it takes off are below that tree now. -/
theorem Instruction.postorderAll_of_grow? {trees trees' : List Expression} :
    ∀ {i : Instruction}, i.grow? trees = some trees' →
      Expression.postorderAll trees'.reverse = Expression.postorderAll trees.reverse ++ [i]
  | .operand o, h => by
      cases h
      rw [List.reverse_cons, Expression.postorderAll_append, Expression.postorderAll_singleton]
      rfl
  | .operator op, h => by
      rw [Instruction.grow?] at h
      split at h
      · split at h
        · cases h
          rw [List.reverse_cons, List.reverse_cons, Expression.postorderAll_append,
            Expression.postorderAll_append, Expression.postorderAll_singleton,
            Expression.postorderAll_singleton, Expression.postorder, List.append_assoc]
        · cases h
      · split at h
        · cases h
          simp only [List.reverse_cons, Expression.postorderAll_append,
            Expression.postorderAll_singleton, Expression.postorder, List.append_assoc]
        · cases h
  | .selector body, h => by
      rw [Instruction.grow?] at h
      split at h
      · rename_i e he
        cases h
        have hbody := Code.postorderAll_of_grow? he
        rw [List.reverse_singleton, Expression.postorderAll_singleton, List.reverse_nil,
          Expression.postorderAll, List.nil_append] at hbody
        rw [List.reverse_cons, Expression.postorderAll_append,
          Expression.postorderAll_singleton, Expression.postorder, hbody]
      · cases h
  | .index, h => by
      rcases trees with _ | ⟨key, _ | ⟨target, rest⟩⟩
      · cases h
      · cases h
      · cases h
        simp only [List.reverse_cons, Expression.postorderAll_append,
          Expression.postorderAll_singleton, Expression.postorder, List.append_assoc]
  | .call name count, h => by
      rw [Instruction.grow?] at h
      split at h
      · cases h
      · rename_i hlen
        cases h
        have hcount : (trees.take count).reverse.length = count := by
          rw [List.length_reverse, List.length_take]
          omega
        have hsplit : trees.reverse = (trees.drop count).reverse ++ (trees.take count).reverse := by
          rw [← List.reverse_append, List.take_append_drop]
        rw [hsplit, List.reverse_cons, Expression.postorderAll_append,
          Expression.postorderAll_append, Expression.postorderAll_singleton,
          Expression.postorder, hcount, List.append_assoc]

/-- Code that grows a stack of trees is what the post-order of the stack grows by. -/
theorem Code.postorderAll_of_grow? {trees trees' : List Expression} :
    ∀ {code : List Instruction}, Code.grow? code trees = some trees' →
      Expression.postorderAll trees'.reverse = Expression.postorderAll trees.reverse ++ code
  | [], h => by
      cases h
      rw [List.append_nil]
  | i :: rest, h => by
      rw [Code.grow?] at h
      split at h
      · rename_i mid hi
        rw [Code.postorderAll_of_grow? h, Instruction.postorderAll_of_grow? hi,
          List.append_assoc, List.singleton_append]
      · cases h

end

/-- Reading code back and writing a tree as code are inverse to each other. -/
theorem Code.tree?_eq_some_iff {code : Code} {e : Expression} :
    code.tree? = some e ↔ e.postorder = code := by
  constructor
  · intro h
    have := Code.postorderAll_of_grow? (Code.tree?_eq_some.1 h)
    rwa [List.reverse_singleton, Expression.postorderAll_singleton, List.reverse_nil,
      Expression.postorderAll, List.nil_append] at this
  · rintro rfl
    exact Expression.tree?_postorder e

end Reckon
