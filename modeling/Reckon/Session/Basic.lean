/-
# Reckon.Session.Basic — statements one after the other

A session holds an environment and evaluates statements in it. An expression gives its
value; an assignment also binds it; a definition binds a function whose body is *frozen*:
every name in it that is no parameter is replaced by its present value, so nothing that
happens later changes what the function computes.

A session also keeps the message of the last statement that failed, and what that statement
logged. A quiet session keeps the message and logs nothing.
-/
import Reckon.Evaluation.Machine
import Reckon.Conversion.Formula
import Reckon.Session.Statement

namespace Reckon

/-- The settings of a session. -/
structure Settings where
  /-- How deeply calls of defined functions and selectors may nest. -/
  recursionLimit : Nat := 128
  /-- How many compiled patterns a host should keep. No result depends on it. -/
  patternCacheSize : Nat := 32
  /-- Whether failures are only kept and not logged. -/
  quiet : Bool := false
deriving DecidableEq, Repr

/-- What a statement did. -/
inductive Evaluation where
  | value (v : Value)
  | assigned (name : String) (v : Value)
  | defined (signature : String)

/-- The value of a statement as a whole; that of a definition is `true`. -/
def Evaluation.toValue : Evaluation → Value
  | value v => v
  | assigned _ v => v
  | defined _ => .bool true

/-- A session. -/
structure Session where
  settings : Settings := {}
  environment : Environment := {}
  /-- The message of the last statement, if it failed. -/
  lastError : Option String := none
  /-- What the last statement logged. -/
  warnings : List String := []

/-! ## Freezing -/

mutual

/-- An instruction with the names that are no parameters replaced by their values. -/
def Instruction.freeze (env : Environment) (parameters : List String) :
    Instruction → Except Fault Instruction
  | .operand (.identifier name) =>
    if parameters.contains name then .ok (.operand (.identifier name))
    else
      match env.value? name with
      | some v => .ok (.operand (.value v))
      | none => .error (.undefinedVariable name)
  | .selector body => do
    let body ← Code.freeze env parameters body
    return .selector body
  | .operand o => .ok (.operand o)
  | .operator op => .ok (.operator op)
  | .index => .ok .index
  | .call name count => .ok (.call name count)

/-- Code with the names that are no parameters replaced by their values, those in selectors
included. -/
def Code.freeze (env : Environment) (parameters : List String) :
    List Instruction → Except Fault (List Instruction)
  | [] => .ok []
  | i :: rest => do
    let i ← i.freeze env parameters
    let rest ← Code.freeze env parameters rest
    return i :: rest

end

namespace Session

/-! ## The two stages of an expression -/

/-- Converts an expression, without evaluating it. -/
def convert (s : Session) (source : String) : Except Fault Code :=
  Code.ofFormula s.environment.scope.arity? s.settings.recursionLimit
    (Statement.prepareText source)

/-- Evaluates code, and keeps the captures it leaves. -/
def execute (s : Session) (code : Code) : Except Fault Value × Session :=
  let (outcome, captures) := code.evaluate s.environment s.settings.recursionLimit 0 .empty
  (outcome, { s with environment := { s.environment with captures } })

/-! ## Statements -/

/-- Evaluates an expression. -/
def evaluateExpression (s : Session) (source : String) : Except Fault Evaluation × Session :=
  match s.convert source with
  | .error e => (.error e, s)
  | .ok code =>
    let (outcome, s) := s.execute code
    (outcome.map .value, s)

/-- Evaluates an assignment. A constant is refused before its new value is computed. -/
def assign (s : Session) (name body : String) : Except Fault Evaluation × Session :=
  if isConstant name then (.error (.constantReassignment name), s)
  else
    match s.convert body with
    | .error e => (.error e, s)
    | .ok code =>
      match s.execute code with
      -- the captures of the body stay, whatever comes of the assignment
      | (.error e, s) => (.error e, s)
      | (.ok v, s) =>
        match s.environment.scope.setVariable name v with
        | .error e => (.error e, s)
        | .ok scope =>
          (.ok (.assigned name v), { s with environment := { s.environment with scope } })

/-- The first parameter that stands in the list before itself. -/
def duplicate? : List String → List String → Option String
  | _, [] => none
  | earlier, p :: rest => if earlier.contains p then some p else duplicate? (p :: earlier) rest

/-- The function that a definition defines, from its body. -/
def closure (s : Session) (parameters : List String) (body : String) :
    Except Fault UserFunction := do
  let code ← s.convert body
  let frozen ← Code.freeze s.environment parameters code
  return ⟨parameters, frozen⟩

/-- Evaluates a definition. -/
def define (s : Session) (name : String) (parameters : List String) (body : String) :
    Except Fault Evaluation × Session :=
  if Builtin.isName name then (.error (.builtinRedefinition name), s)
  else
    match duplicate? [] parameters with
    | some p => (.error (.grammar (.duplicateParameter p name)), s)
    | none =>
      match s.closure parameters body with
      | .error e => (.error e, s)
      | .ok f =>
        match s.environment.scope.define name f with
        | .error e => (.error e, s)
        | .ok scope =>
          (.ok (.defined (UserFunction.signature name parameters)),
            { s with environment := { s.environment with scope } })

/-- Evaluates a statement without a record of what went wrong. -/
def runStatement (s : Session) (source : String) : Except Fault Evaluation × Session :=
  let text := Statement.prepare source.toList
  if text.isEmpty then (.error (.grammar .empty), s)
  else
    match Statement.classify text with
    | .assignment name body => s.assign name body
    | .definition name parameters body => s.define name parameters body
    | .expression source => s.evaluateExpression source

/-- Evaluates a statement. -/
def evaluateStatement (s : Session) (source : String) : Except Fault Evaluation × Session :=
  match s.runStatement source with
  | (.ok result, s) => (.ok result, { s with lastError := none, warnings := [] })
  | (.error e, s) =>
    let message := e.message
    (.error e, { s with
      lastError := some message
      warnings := if s.settings.quiet then [] else [message] })

/-- Evaluates a statement to a value. -/
def evaluate (s : Session) (source : String) : Except Fault Value × Session :=
  let (outcome, s) := s.evaluateStatement source
  (outcome.map Evaluation.toValue, s)

/-! ## What a host can do -/

/-- Binds a variable. -/
def setVariable (s : Session) (name : String) (v : Value) : Except Fault Session := do
  let scope ← s.environment.scope.setVariable name v
  return { s with environment := { s.environment with scope } }

/-- Registers a function of the host. -/
def register (s : Session) (name : String) (f : HostFunction) : Except Fault Session := do
  let scope ← s.environment.scope.register name f
  return { s with environment := { s.environment with scope } }

/-- Makes the session quiet, or not. -/
def setQuiet (s : Session) (quiet : Bool) : Session :=
  { s with settings := { s.settings with quiet } }

end Session

/-- Evaluates one statement in a session of its own. -/
def evaluateOnce (source : String) : Except Fault Value :=
  ({ settings := { quiet := true } } : Session).evaluate source |>.1

/-- Evaluates statements in a session each; the results are in the order of the
statements. -/
def evaluateAll (sources : List String) : List (Except Fault Value) :=
  sources.map evaluateOnce

end Reckon
