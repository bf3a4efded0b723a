/-
# Reckon.Value.Arithmetic — the arithmetic operators

Each operator takes the numeric views of its operands, the left one first; an operand
without one is a type mismatch under the operator's symbol. There are two exceptions:
`+` concatenates as soon as one operand is a text, and `%` works on integers of 64 bits.
-/
import Reckon.Fault
import Reckon.Number.Binary
import Reckon.Value.View

namespace Reckon.Value

/-- The numeric view of an operand of an operator. -/
def operand (operator : String) (v : Value) : Except Fault Float :=
  match v.number? with
  | some x => .ok x
  | none => .error (.typeMismatch operator v.kind)

/-- The numeric views of both operands, the left one first. -/
def operands (operator : String) (a b : Value) : Except Fault (Float × Float) := do
  let x ← a.operand operator
  let y ← b.operand operator
  return (x, y)

/-- Whether a value is a text. -/
def isText : Value → Bool
  | text _ => true
  | _ => false

/-- `a + b`: the displays joined if an operand is a text, and the sum otherwise. -/
def add (a b : Value) : Except Fault Value :=
  if a.isText || b.isText then .ok (.text (a.display ++ b.display))
  else do
    let (x, y) ← operands "+" a b
    return .number (x + y)

/-- `a - b`. -/
def subtract (a b : Value) : Except Fault Value := do
  let (x, y) ← operands "-" a b
  return .number (x - y)

/-- `a * b`. -/
def multiply (a b : Value) : Except Fault Value := do
  let (x, y) ← operands "*" a b
  return .number (x * y)

/-- `a / b`; division by either zero is a fault. -/
def divide (a b : Value) : Except Fault Value := do
  let (x, y) ← operands "/" a b
  if y == 0.0 then .error .divisionByZero else return .number (x / y)

/-- `a % b`: the remainder of the integer parts, which takes the sign of the left operand.
The integer parts are clamped into 64 bits; a divisor without an integer part is a fault. -/
def modulo (a b : Value) : Except Fault Value := do
  let (x, y) ← operands "%" a b
  let dividend := Number.toInt64 x
  let divisor := Number.toInt64 y
  if divisor = 0 then .error .divisionByZero
  else return .number (Number.ofInt64 (dividend % divisor))

/-- `a ^ b`. -/
def power (a b : Value) : Except Fault Value := do
  let (x, y) ← operands "^" a b
  return .number (x.pow y)

/-- `-a`: the product with minus one. -/
def negate (a : Value) : Except Fault Value :=
  multiply a (.number (-1.0))

end Reckon.Value
