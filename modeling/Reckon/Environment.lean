/-
# Reckon.Environment — what names stand for

Names stand for variables and for functions. What statements and hosts bind is the *scope*:
variables, functions defined by formulas, and functions of the host. What matches bind are
the *captures*, the texts of the last match, which formulas read as `$0`, `$1` and so on.
The two are kept apart because evaluating an expression can change the captures and nothing
else.

Two names are constants and twenty-two are built-in functions; neither can be rebound. A
function of a formula hides a host function of the same name.
-/
import Reckon.Code.Basic
import Reckon.Fault
import Reckon.Function.Builtin
import Reckon.Function.Host
import Reckon.Table
import Reckon.Text.Blank

namespace Reckon

/-- A function defined by a formula. Its body holds values in place of all names that are no
parameters. -/
structure UserFunction where
  parameters : List String
  body : Code

/-- How many arguments a defined function takes. -/
def UserFunction.arity (f : UserFunction) : Nat :=
  f.parameters.length

/-- How a defined function is listed: `name(a,b)`. -/
def UserFunction.signature (name : String) (parameters : List String) : String :=
  name ++ "(" ++ String.intercalate "," parameters ++ ")"

/-- What a function name stands for. -/
inductive Callee where
  | builtin
  | user (f : UserFunction)
  | host (f : HostFunction)

/-- How many arguments a callee takes. -/
def Callee.arity : Callee → Nat
  | builtin => 1
  | user f => f.arity
  | host f => f.arity

/-- The names and values of the constants. -/
def constants : List (String × Value) :=
  [("pi", .number 3.141592653589793), ("e", .number 2.718281828459045)]

/-- Whether a name is that of a constant. -/
def isConstant (name : String) : Bool :=
  (constants.lookup name).isSome

/-- What statements and hosts bind. -/
structure Scope where
  /-- The variables. -/
  bindings : Table Value := .empty
  /-- The functions that formulas define. -/
  functions : Table UserFunction := .empty
  /-- The functions of the host. -/
  hosts : Table HostFunction := .empty

namespace Scope

/-- The scope a session starts with; its one function is `if`. -/
def initial : Scope :=
  { hosts := Table.empty.insert "if" HostFunction.conditional }

/-- What a function name stands for: a built-in function, else a defined one, else one of
the host. -/
def resolve? (scope : Scope) (name : String) : Option Callee :=
  if Builtin.isName name then some .builtin
  else
    match scope.functions.get? name with
    | some f => some (.user f)
    | none => (scope.hosts.get? name).map .host

/-- How many arguments the function of a name takes. -/
def arity? (scope : Scope) (name : String) : Option Nat :=
  (scope.resolve? name).map Callee.arity

/-- Binds a variable. -/
def setVariable (scope : Scope) (name : String) (v : Value) : Except Fault Scope :=
  if isConstant name then .error (.constantReassignment name)
  else if !Text.isName name.toList then .error (.grammar (.invalidVariableName name))
  else .ok { scope with bindings := scope.bindings.insert name v }

/-- Defines a function, in place of any earlier definition of its name. -/
def define (scope : Scope) (name : String) (f : UserFunction) : Except Fault Scope :=
  if Builtin.isName name then .error (.builtinRedefinition name)
  else .ok { scope with functions := scope.functions.insert name f }

/-- Registers a function of the host, in place of any earlier one of its name. -/
def register (scope : Scope) (name : String) (f : HostFunction) : Except Fault Scope :=
  if Builtin.isName name then .error (.builtinRedefinition name)
  else if !Text.isName name.toList then .error (.grammar (.invalidFunctionName name))
  else .ok { scope with hosts := scope.hosts.insert name f }

/-- The defined functions as they are listed, in the order of their names. -/
def signatures (scope : Scope) : List String :=
  scope.functions.toList.map fun (name, f) => UserFunction.signature name f.parameters

end Scope

/-! ## Captures -/

/-- The texts of the last match: the whole match first, then its groups. There are none
before the first match and after an attempt that found nothing. -/
abbrev Captures := List String

namespace Captures

/-- Drops the captures of the last match. -/
def clear (_ : Captures) : Captures :=
  []

/-- Binds `$0` to the whole match and `$1`, `$2` and so on to the groups, in place of the
captures of the last match. -/
def setGroups (captures : Captures) (groups : List String) : Captures :=
  captures.clear ++ groups

end Captures

/-- The name of a capture. -/
def captureName (i : Nat) : String :=
  "$" ++ toString i

/-- The text of the capture of a name; the first one in the list is number `i`. -/
def lookupCapture? (name : String) : Nat → Captures → Option String
  | _, [] => none
  | i, s :: rest => if name = captureName i then some s else lookupCapture? name (i + 1) rest

/-- Everything that names stand for. -/
structure Environment where
  scope : Scope := Scope.initial
  captures : Captures := []

/-- The value of a variable, a constant or a capture. -/
def Scope.value? (scope : Scope) (captures : Captures) (name : String) : Option Value :=
  match constants.lookup name with
  | some v => some v
  | none =>
    match scope.bindings.get? name with
    | some v => some v
    | none => (lookupCapture? name 0 captures).map .text

namespace Environment

/-- The value of a variable, a constant or a capture. -/
def value? (env : Environment) (name : String) : Option Value :=
  env.scope.value? env.captures name

/-- Drops the captures of the last match. -/
def clearCaptures (env : Environment) : Environment :=
  { env with captures := env.captures.clear }

/-- Binds the captures to the groups of a match. -/
def setCaptures (env : Environment) (groups : List String) : Environment :=
  { env with captures := env.captures.setGroups groups }

end Environment

end Reckon
