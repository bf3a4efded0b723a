/-
# Reckon.Proofs.Code.Parts — what occurs in code

The instructions of code, those in selectors at any depth included, and from them the names
that code reads and the functions that it calls.
-/
import Reckon.Proofs.Expression.Basic

namespace Reckon

mutual

/-- An instruction and, if it is a selector, the instructions in it. -/
def Instruction.parts : Instruction → List Instruction
  | .selector body => .selector body :: Code.parts body
  | .operand o => [.operand o]
  | .operator op => [.operator op]
  | .index => [.index]
  | .call name count => [.call name count]

/-- The instructions of code, those in selectors included. -/
def Code.parts : List Instruction → List Instruction
  | [] => []
  | i :: rest => i.parts ++ Code.parts rest

end

/-- The name that an instruction reads. -/
def Instruction.name? : Instruction → Option String
  | operand (.identifier name) => some name
  | operand _ | operator _ | selector _ | index | call _ _ => none

namespace Code

theorem parts_append (code rest : Code) : parts (code ++ rest) = parts code ++ parts rest := by
  induction code with
  | nil => rfl
  | cons i code ih =>
      rw [List.cons_append, parts, ih, parts, List.append_assoc]

@[simp]
theorem mem_parts_append {i : Instruction} {code rest : Code} :
    i ∈ parts (code ++ rest) ↔ i ∈ parts code ∨ i ∈ parts rest := by
  rw [parts_append, List.mem_append]

@[simp]
theorem mem_parts_singleton {i j : Instruction} : i ∈ parts [j] ↔ i ∈ j.parts := by
  rw [parts, parts, List.append_nil]

/-- Whether code reads a name. -/
def Reads (code : Code) (name : String) : Prop :=
  .operand (.identifier name) ∈ parts code

/-- The names that code reads, one by one. -/
def names (code : Code) : List String :=
  (parts code).filterMap Instruction.name?

theorem mem_names_iff {code : Code} {name : String} : name ∈ code.names ↔ code.Reads name := by
  rw [names, List.mem_filterMap]
  constructor
  · rintro ⟨i, hi, hname⟩
    cases i with
    | operand o =>
        cases o with
        | identifier other =>
            cases hname
            exact hi
        | _ => cases hname
    | _ => cases hname
  · intro h
    exact ⟨_, h, rfl⟩

/-- Whether code calls a function. -/
def Calls (code : Code) (name : String) : Prop :=
  ∃ count, .call name count ∈ parts code

end Code

/-! ## What occurs in the code of a tree -/

namespace Expression

variable {i : Instruction} {name : String}

/-- What occurs in one of several trees occurs in their code. -/
@[simp]
theorem mem_parts_postorderAll {es : List Expression} :
    i ∈ Code.parts (postorderAll es) ↔ ∃ e ∈ es, i ∈ Code.parts e.postorder := by
  induction es with
  | nil =>
      constructor
      · intro h
        cases h
      · rintro ⟨e, he, -⟩
        cases he
  | cons e es ih =>
      rw [postorderAll, Code.mem_parts_append, ih]
      simp only [List.mem_cons, or_and_right, exists_or, exists_eq_left]

@[simp]
theorem mem_parts_operand {o : Operand} :
    i ∈ Code.parts (operand o).postorder ↔ i = .operand o := by
  rw [postorder, Code.mem_parts_singleton, Instruction.parts, List.mem_singleton]

@[simp]
theorem mem_parts_selector {body : Expression} :
    i ∈ Code.parts (selector body).postorder
      ↔ i = .selector body.postorder ∨ i ∈ Code.parts body.postorder := by
  rw [postorder, Code.mem_parts_singleton, Instruction.parts, List.mem_cons]

@[simp]
theorem mem_parts_prefixed {op : Operator} {isPrefix : op.isPrefix = true} {e : Expression} :
    i ∈ Code.parts (prefixed op isPrefix e).postorder
      ↔ i ∈ Code.parts e.postorder ∨ i = .operator op := by
  rw [postorder, Code.mem_parts_append, Code.mem_parts_singleton, Instruction.parts,
    List.mem_singleton]

@[simp]
theorem mem_parts_binary {op : Operator} {isBinary : op.isPrefix = false} {a b : Expression} :
    i ∈ Code.parts (binary op isBinary a b).postorder
      ↔ (i ∈ Code.parts a.postorder ∨ i ∈ Code.parts b.postorder) ∨ i = .operator op := by
  rw [postorder, Code.mem_parts_append, Code.mem_parts_append, Code.mem_parts_singleton,
    Instruction.parts, List.mem_singleton]

@[simp]
theorem mem_parts_index {target key : Expression} :
    i ∈ Code.parts (index target key).postorder
      ↔ (i ∈ Code.parts target.postorder ∨ i ∈ Code.parts key.postorder) ∨ i = .index := by
  rw [postorder, Code.mem_parts_append, Code.mem_parts_append, Code.mem_parts_singleton,
    Instruction.parts, List.mem_singleton]

@[simp]
theorem mem_parts_call {args : List Expression} :
    i ∈ Code.parts (call name args).postorder
      ↔ (∃ e ∈ args, i ∈ Code.parts e.postorder) ∨ i = .call name args.length := by
  rw [postorder, Code.mem_parts_append, mem_parts_postorderAll, Code.mem_parts_singleton,
    Instruction.parts, List.mem_singleton]

/-! Only calls call: what any other tree calls is called in a part of it. -/

@[simp]
theorem not_calls_operand {o : Operand} : ¬ Code.Calls (operand o).postorder name := by
  rintro ⟨count, hmem⟩
  cases mem_parts_operand.1 hmem

@[simp]
theorem calls_selector {body : Expression} :
    Code.Calls (selector body).postorder name ↔ Code.Calls body.postorder name := by
  simp only [Code.Calls, mem_parts_selector, reduceCtorEq, false_or]

@[simp]
theorem calls_prefixed {op : Operator} {isPrefix : op.isPrefix = true} {e : Expression} :
    Code.Calls (prefixed op isPrefix e).postorder name ↔ Code.Calls e.postorder name := by
  simp only [Code.Calls, mem_parts_prefixed, reduceCtorEq, or_false]

@[simp]
theorem calls_binary {op : Operator} {isBinary : op.isPrefix = false} {a b : Expression} :
    Code.Calls (binary op isBinary a b).postorder name
      ↔ Code.Calls a.postorder name ∨ Code.Calls b.postorder name := by
  simp only [Code.Calls, mem_parts_binary, reduceCtorEq, or_false, exists_or]

@[simp]
theorem calls_index {target key : Expression} :
    Code.Calls (index target key).postorder name
      ↔ Code.Calls target.postorder name ∨ Code.Calls key.postorder name := by
  simp only [Code.Calls, mem_parts_index, reduceCtorEq, or_false, exists_or]

@[simp]
theorem calls_call {callee : String} {args : List Expression} :
    Code.Calls (call callee args).postorder name
      ↔ (∃ e ∈ args, Code.Calls e.postorder name) ∨ name = callee := by
  constructor
  · rintro ⟨count, hmem⟩
    rcases mem_parts_call.1 hmem with ⟨e, he, hmem⟩ | heq
    · exact .inl ⟨e, he, count, hmem⟩
    · cases heq
      exact .inr rfl
  · rintro (⟨e, he, count, hmem⟩ | rfl)
    · exact ⟨count, mem_parts_call.2 (.inl ⟨e, he, hmem⟩)⟩
    · exact ⟨args.length, mem_parts_call.2 (.inr rfl)⟩

end Expression

end Reckon
