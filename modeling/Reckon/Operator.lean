/-
# Reckon.Operator — the operators of formulas

Fifteen binary operators and two that stand before their operand, with the binding
strengths that decide how a formula is grouped. Only the power groups to the right.
-/

namespace Reckon

/-- The operators of formulas. -/
inductive Operator where
  | add | subtract | multiply | divide | modulo | power
  | greater | less | greaterEqual | lessEqual | equal | notEqual | matching
  | and | or
  | negate | not
deriving DecidableEq, Repr

namespace Operator

/-- How strongly an operator binds; a larger number binds more strongly. -/
def precedence : Operator → Nat
  | or | and => 1
  | greater | less | greaterEqual | lessEqual | equal | notEqual | matching => 2
  | add | subtract => 3
  | multiply | divide | modulo | negate => 4
  | power | not => 5

/-- Whether a chain of the operator groups from the right. -/
def isRightAssociative : Operator → Bool
  | power => true
  | _ => false

/-- Whether the operator stands before its single operand. -/
def isPrefix : Operator → Bool
  | negate | not => true
  | _ => false

/-- How the operator is written. Negation is written `-` in a formula; in converted code it
is `_`, to tell it from subtraction. -/
def symbol : Operator → String
  | add => "+"
  | subtract => "-"
  | multiply => "*"
  | divide => "/"
  | modulo => "%"
  | power => "^"
  | greater => ">"
  | less => "<"
  | greaterEqual => ">="
  | lessEqual => "<="
  | equal => "=="
  | notEqual => "!="
  | matching => "=~"
  | and => "&&"
  | or => "||"
  | negate => "_"
  | not => "!"

/-- All operators. -/
def all : List Operator :=
  [add, subtract, multiply, divide, modulo, power, greater, less, greaterEqual, lessEqual,
    equal, notEqual, matching, and, or, negate, not]

/-- The operator that a symbol of a formula stands for, or a message. The symbol of negation
stands for none: whether a `-` negates depends on its place. -/
def ofSymbol (s : String) : Except String Operator :=
  match (all.erase negate).find? fun op => op.symbol == s with
  | some op => .ok op
  | none => .error ("Unknown operator: " ++ s)

/-- Every operator but negation is what its own symbol stands for, and nothing else is. -/
theorem ofSymbol_eq_ok_iff {s : String} {op : Operator} :
    ofSymbol s = .ok op ↔ op ≠ negate ∧ op.symbol = s := by
  constructor
  · intro h
    unfold ofSymbol at h
    split at h
    · rename_i hfind
      cases h
      have hne : ∀ op ∈ all.erase negate, op ≠ negate := by decide
      exact ⟨hne op (List.mem_of_find?_eq_some hfind), by simpa using List.find?_some hfind⟩
    · cases h
  · rintro ⟨hne, rfl⟩
    cases op with
    | negate => exact absurd rfl hne
    | _ => rfl

end Operator

end Reckon
