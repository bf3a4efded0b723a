/-
# Reckon.Conversion.Formula — from a formula to code

The lexemes of a formula are taken one at a time. An operand goes to the code at once; an
operator waits until the next one shows whether its right operand is complete; a parenthesis
releases what waits above its partner. Two operands side by side multiply where the second
one is a number, a name, a call or a parenthesis.

Calls are checked against the functions known now: a name that is no function and stands
before a parenthesis is a variable that is multiplied, and a known function must be given as
many arguments as it takes. Nothing but the count of arguments of each name is needed for
that, so conversion takes the function `arity?` from names to counts.

The contents of a selector are a formula of their own. Selectors may nest as deeply as the
limit says; the depth that is left is what the recursion counts down.
-/
import Reckon.Code.Basic
import Reckon.Conversion.Pending
import Reckon.Fault
import Reckon.Lexeme.Scan
import Reckon.Text.Blank

namespace Reckon.Conversion

/-- What the next lexeme may have to count as an argument. -/
inductive ArgumentMark where
  /-- Nothing. -/
  | none
  /-- The first argument of the call just opened, unless the call closes again. -/
  | opened
  /-- The argument after a comma. -/
  | next
deriving DecidableEq, Repr

/-- A conversion under way. Code and stack are written with the latest entry first. -/
structure State where
  output : List Instruction := []
  stack : List Pending := []
  /-- Whether an operand is due. -/
  operandDue : Bool := true
  mark : ArgumentMark := .none

/-! ## Operators -/

/-- Whether a waiting operator is released by a binary operator that comes after it. -/
def releases (op waiting : Operator) : Bool :=
  if op.isRightAssociative then op.precedence < waiting.precedence
  else op.precedence ≤ waiting.precedence

/-- Moves the waiting operators that a binary operator releases to the code. -/
def release (op : Operator) :
    List Pending → List Instruction → List Pending × List Instruction
  | .operator waiting :: stack, output =>
    if releases op waiting then release op stack (.operator waiting :: output)
    else (.operator waiting :: stack, output)
  | stack, output => (stack, output)

/-- Takes a binary operator: what it releases goes to the code, and it waits itself. -/
def State.pushOperator (s : State) (op : Operator) : State :=
  let (stack, output) := release op s.stack s.output
  { s with stack := .operator op :: stack, output := output }

/-- Takes an implicit product if an operand is complete. -/
def State.multiplyIfDone (s : State) : State :=
  if s.operandDue then s else s.pushOperator .multiply

/-- Adds an instruction to the code. -/
def State.emit (s : State) (i : Instruction) : State :=
  { s with output := i :: s.output }

/-- Puts an entry on the stack. -/
def State.push (s : State) (p : Pending) : State :=
  { s with stack := p :: s.stack }

/-- Moves the operators above the innermost open parenthesis to the code and drops the
parenthesis; there is no result if none is open. -/
def unwind? : List Pending → List Instruction → Option (List Pending × List Instruction)
  | .openParen :: stack, output => some (stack, output)
  | .operator op :: stack, output => unwind? stack (.operator op :: output)
  | _, _ => none

/-! ## Lexemes -/

/-- Takes an operand. A number or a name after a complete operand is multiplied; no other
operand can stand there. -/
def takeOperand (s : State) (o : Operand) : Except Fault State :=
  if s.operandDue then .ok { s.emit (.operand o) with operandDue := false }
  else
    match o with
    | .number _ | .identifier _ =>
      .ok ((s.pushOperator .multiply).emit (.operand o))
    | .text _ => .error (.grammar (.unexpectedOperand .string))
    | .pattern _ => .error (.grammar (.unexpectedOperand .pattern))
    | .json _ | .value _ => .error (.grammar (.unexpectedOperand .literal))

/-- Takes a name before a parenthesis: a call of a known function, or the product of a
variable with what the parenthesis holds. -/
def takeCall (arity? : String → Option Nat) (s : State) (name : String) : State :=
  let s := s.multiplyIfDone
  if (arity? name).isSome then
    { (((s.push (.call name)).push (.argumentCount 0)).push .openParen) with
      operandDue := true, mark := .opened }
  else
    -- a variable times what the parenthesis holds, as in `x(y + 1)`
    { (((s.emit (.operand (.identifier name))).pushOperator .multiply).push .openParen) with
      operandDue := true }

/-- Closes the innermost parenthesis. If it belongs to a call, the call goes to the code,
provided that its count of arguments is right. -/
def closeParen (arity? : String → Option Nat) (s : State) : Except Fault State :=
  match unwind? s.stack s.output with
  | none => .error (.grammar .unmatchedClose)
  | some (.argumentCount given :: .call name :: stack, output) =>
    match arity? name with
    | none => .error (.inconsistent (.vanishedFunction name))
    | some expected =>
      if given = expected then
        .ok { s with stack := stack, output := .call name given :: output }
      else .error (.arity name given expected)
  | some (.argumentCount _ :: _, _) => .error (.inconsistent .countWithoutCall)
  | some (stack, output) => .ok { s with stack := stack, output := output }

/-- Takes a closing parenthesis. An operand must be complete, except directly after the
parenthesis of a call. -/
def takeClose (arity? : String → Option Nat) (afterCallOpen : Bool) (s : State) :
    Except Fault State :=
  if s.operandDue && !afterCallOpen then .error (.grammar .unexpectedClose)
  else do
    let s ← closeParen arity? s
    return { s with operandDue := false }

/-- Takes a comma, which ends an argument of the innermost call. -/
def takeComma (s : State) : Except Fault State :=
  if s.operandDue then .error (.grammar .unexpectedComma)
  else
    match unwind? s.stack s.output with
    -- the parenthesis goes back on: the call goes on
    | some (stack@(.argumentCount _ :: _), output) =>
      .ok { output := output, stack := .openParen :: stack, operandDue := true, mark := .next }
    | _ => .error (.grammar .unexpectedComma)

/-- Takes an operator; a `-` where an operand is due negates. -/
def takeOperator (s : State) (op : Operator) : Except Fault State :=
  -- an operator before its operand releases nothing
  if op = .subtract ∧ s.operandDue then .ok (s.push (.operator .negate))
  else if op = .not then
    if s.operandDue then .ok (s.push (.operator .not))
    else .error (.grammar (.unexpectedOperator .not))
  else if s.operandDue then .error (.grammar (.unexpectedOperator op))
  else .ok { s.pushOperator op with operandDue := true }

/-- Takes a selector, whose contents `selector` converts. -/
def takeIndex (selector : String → Except Fault Code) (s : State) (raw : String) :
    Except Fault State :=
  if s.operandDue then .error (.grammar .unexpectedBracket)
  else if (Text.trim raw.toList).isEmpty then .error (.grammar .emptySelector)
  else do
    let body ← selector raw
    return (s.emit (.selector body)).emit .index

/-- Counts an argument if the lexeme starts one. -/
def countArgument (s : State) (t : Lexeme) : Except Fault State :=
  match s.mark, t with
  | .none, _ => .ok s
  | _, .closeParen => .ok s
  | _, _ =>
    let (counted, stack) := Pending.increment s.stack
    if counted then .ok { s with stack := stack }
    else .error (.inconsistent .argumentOutsideCall)

/-- Takes one lexeme. -/
def step (arity? : String → Option Nat) (selector : String → Except Fault Code) (s : State)
    (t : Lexeme) : Except Fault State := do
  let afterCallOpen := s.mark == .opened
  let s ← countArgument s t
  let s := { s with mark := .none }
  match t with
  | .number x => takeOperand s (.number x)
  | .text v => takeOperand s (.text v)
  | .json raw => takeOperand s (.json raw)
  | .pattern raw => takeOperand s (.pattern raw)
  | .identifier name => takeOperand s (.identifier name)
  | .call name => return takeCall arity? s name
  | .openParen => return { s.multiplyIfDone.push .openParen with operandDue := true }
  | .closeParen => takeClose arity? afterCallOpen s
  | .comma => takeComma s
  | .operator op => takeOperator s op
  | .index raw => takeIndex selector s raw

/-! ## Whole formulas -/

/-- Moves all waiting operators to the code; a parenthesis among them was never closed. -/
def flush : List Pending → List Instruction → Except Fault (List Instruction)
  | [], output => .ok output
  | .operator op :: stack, output => flush stack (.operator op :: output)
  | _ :: _, _ => .error (.grammar .missingClose)

/-- Ends a conversion. -/
def finish (s : State) : Except Fault Code :=
  if s.operandDue then .error (.grammar .unexpectedEnd)
  else do
    let output ← flush s.stack s.output
    return output.reverse

/-- Converts the lexemes of a formula; `selector` converts the contents of selectors. -/
def convertLexemes (arity? : String → Option Nat) (selector : String → Except Fault Code)
    (ts : List Lexeme) : Except Fault Code :=
  if ts.isEmpty then .error (.grammar .empty)
  else do
    let s ← ts.foldlM (step arity? selector) {}
    finish s

/-- Converts the contents of a selector, in which selectors may nest `budget - 1` deep. -/
def convertSelector (arity? : String → Option Nat) (limit : Nat) :
    Nat → String → Except Fault Code
  | 0, _ => .error (.recursionLimit limit)
  | budget + 1, raw => do
    let ts ← Lexeme.scan raw
    convertLexemes arity? (convertSelector arity? limit budget) ts

end Conversion

/-- Converts a formula into code. The functions that can be called are those `arity?` knows,
and selectors may nest as deeply as `limit` says. -/
def Code.ofFormula (arity? : String → Option Nat) (limit : Nat) (source : String) :
    Except Fault Code := do
  let ts ← Lexeme.scan source
  Conversion.convertLexemes arity? (Conversion.convertSelector arity? limit limit) ts

end Reckon
