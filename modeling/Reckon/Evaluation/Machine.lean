/-
# Reckon.Evaluation.Machine — evaluating code

Code runs on a stack of values. Every instruction takes its operands off the stack and puts
its result on it, and a run ends well if exactly one value is left. All operands of an
operator and all arguments of a call have been evaluated when it is their turn; nothing is
skipped, and the first fault ends the run.

The state of a run is the captures. They outlive a fault, so a run gives its outcome and the
captures side by side.

Selectors and calls of defined functions run code inside code. Each level uses up one unit of
a budget, and the run of one level takes the run of the next as an argument; at the last
level that is a run that only reports the limit.
-/
import Reckon.Environment
import Reckon.Pattern.Delimited
import Reckon.Json.Reader
import Reckon.Value.Arithmetic
import Reckon.Value.Comparison
import Reckon.Value.Member

namespace Reckon

/-- The arguments of a call, by the names of the parameters. -/
abbrev Frame := Table Value

/-- A computation that may fail and may change the captures. -/
abbrev Run := ExceptT Fault (StateM Captures)

namespace Machine

/-- A run that does not touch the captures. -/
def lift {α : Type} (result : Except Fault α) : Run α :=
  ExceptT.mk (pure result)

/-- The value of an operand. A name stands for an argument before anything else. -/
def load (scope : Scope) (frame : Frame) : Operand → Run Value
  | .number x => return .number x
  | .text s => return .text s
  | .pattern raw => return .text raw
  | .value v => return v
  | .json raw =>
    match Json.read? raw.toList with
    | some v => return v
    | none => throw (.invalidJson raw)
  | .identifier name => do
    match frame.get? name with
    | some v => return v
    | none =>
      -- the captures of now: an earlier match of the same code counts
      match scope.value? (← get) name with
      | some v => return v
      | none => throw (.undefinedVariable name)

/-! ## Operators -/

/-- `subject =~ pattern`: whether the text has a match. A match becomes the captures, an
attempt without one clears them, and an invalid pattern leaves them alone. -/
def matchPattern (subject pattern : Value) : Run Value := do
  let text := pattern.display
  if pattern.isContainer then
    throw (.invalidPattern text (.notText pattern.kind))
  match Pattern.compileDelimited text.toList with
  | .error cause => throw (.invalidPattern text cause)
  | .ok program =>
    match program.search? subject.display.toList with
    | some groups =>
      modify (·.setGroups (groups.map String.ofList))
      return .number 1.0
    | none =>
      modify Captures.clear
      return .number 0.0

/-- A comparison: the operands compare, and in one of the ways that count. Values without an
order satisfy none. -/
def ordered (op : Operator) (accepts : Ordering → Bool) (a b : Value) : Except Fault Value := do
  let order ← Value.compare op.symbol a b
  return .bool (order.any accepts)

/-- The value of a binary operator. Both operands of `&&` and `||` have been evaluated; the
operator picks one of them. -/
def binary (op : Operator) (a b : Value) : Run Value :=
  match op with
  | .add => lift (a.add b)
  | .subtract => lift (a.subtract b)
  | .multiply => lift (a.multiply b)
  | .divide => lift (a.divide b)
  | .modulo => lift (a.modulo b)
  | .power => lift (a.power b)
  | .greater => lift (ordered op Ordering.isGT a b)
  | .less => lift (ordered op Ordering.isLT a b)
  | .greaterEqual => lift (ordered op Ordering.isGE a b)
  | .lessEqual => lift (ordered op Ordering.isLE a b)
  | .equal => return .bool (a.looseEq b)
  | .notEqual => return .bool (!a.looseEq b)
  | .and => return if a.isTruthy then b else a
  | .or => return if a.isTruthy then a else b
  | .matching => matchPattern a b
  | .negate | .not => throw (.inconsistent (.prefixUsedAsBinary op))

/-! ## Calls -/

/-- Takes so many values off a stack that has its top first; they come back in the order in
which they were put on. -/
def takeArguments (count : Nat) (stack : List Value) : Except Fault (List Value × List Value) :=
  if stack.length < count then .error (.inconsistent .missingOperand)
  else .ok ((stack.take count).reverse, stack.drop count)

/-- Calls a built-in function. -/
def callBuiltin (name : String) (args : List Value) : Except Fault Value := do
  let x ← (args.headD .null).operand name
  match Builtin.evalNamed? name x with
  | some y => return .number y
  | none => .error (.inconsistent (.notBuiltin name))

/-- Calls a function of the host. -/
def callHost (name : String) (f : HostFunction) (args : List Value) : Except Fault Value :=
  match f.call args with
  | .ok v => .ok v
  | .error message => .error (.hostFunction name message)

/-- Calls a function on arguments. The body of a defined function runs with its parameters
as the only local names. -/
def call (inside : Frame → Code → Run Value) (name : String) (callee : Callee)
    (args : List Value) : Run Value :=
  match callee with
  | .builtin => lift (callBuiltin name args)
  | .user f => inside (Table.ofList (f.parameters.zip args)) f.body
  | .host f => lift (callHost name f args)

/-- Takes the arguments of a call off the stack and puts its value on. The name must stand
for a function of as many arguments as the call has, now as when it was converted. -/
def callStep (scope : Scope) (inside : Frame → Code → Run Value) (name : String) (count : Nat)
    (stack : List Value) : Run (List Value) :=
  match scope.resolve? name with
  | none => throw (.undefinedFunction name)
  | some callee =>
    -- a function may have been defined anew since the code was converted
    if count ≠ callee.arity then throw (.arity name count callee.arity)
    else do
      let (args, stack) ← lift (takeArguments count stack)
      let v ← call inside name callee args
      return v :: stack

/-! ## Runs -/

/-- Runs one instruction on a stack that has its top first. `inside` runs the code of
selectors and of defined functions. -/
def step (scope : Scope) (inside : Frame → Code → Run Value) (frame : Frame)
    (stack : List Value) : Instruction → Run (List Value)
  | .operand o => return (← load scope frame o) :: stack
  | .operator .negate =>
    match stack with
    | v :: stack => return (← lift v.negate) :: stack
    | [] => throw (.inconsistent .missingOperand)
  | .operator .not =>
    match stack with
    | v :: stack => return .bool (!v.isTruthy) :: stack
    | [] => throw (.inconsistent .missingOperand)
  | .operator op =>
    match stack with
    | b :: a :: stack => return (← binary op a b) :: stack
    | _ => throw (.inconsistent .missingOperand)
  | .selector body => return (← inside frame body) :: stack
  | .index =>
    match stack with
    | selector :: target :: stack => return (← lift (target.index selector)) :: stack
    | _ => throw (.inconsistent .missingOperand)
  | .call name count => callStep scope inside name count stack

/-- The value that a run leaves. -/
def result : List Value → Except Fault Value
  | [v] => .ok v
  | [] => .error (.inconsistent .missingOperand)
  | stack => .error (.inconsistent (.leftoverValues stack.length))

/-- Runs code to its value. -/
def runWith (scope : Scope) (inside : Frame → Code → Run Value) (frame : Frame) (code : Code) :
    Run Value := do
  let stack ← code.foldlM (step scope inside frame) []
  lift (result stack)

/-- Runs code in which selectors and calls may nest as deeply as the budget says. -/
def runWithin (scope : Scope) (limit : Nat) : Nat → Frame → Code → Run Value
  | 0 => runWith scope fun _ _ => throw (.recursionLimit limit)
  | budget + 1 => runWith scope (runWithin scope limit budget)

end Machine

/-- Runs code at a depth of nesting that counts against the limit. -/
def Code.run (scope : Scope) (limit depth : Nat) (frame : Frame) (code : Code) : Run Value :=
  Machine.runWithin scope limit (limit - depth) frame code

/-- Evaluates code: its outcome, and the captures it leaves. -/
def Code.evaluate (env : Environment) (limit depth : Nat) (frame : Frame) (code : Code) :
    Except Fault Value × Captures :=
  (code.run env.scope limit depth frame).run env.captures

end Reckon
