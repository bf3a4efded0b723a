/-
# Reckon.Function.Host — functions supplied by the host

A host function takes a fixed number of values and gives a value or a message of failure.
Most are given by a function on *typed* arguments: each argument has a type, each value is
converted to it, from left to right, and the first one that cannot be converted is reported
by its place (counted from zero) and the type it should have had.
-/
import Reckon.Number.Binary
import Reckon.Value.View

namespace Reckon

/-- A function supplied by the host. -/
structure HostFunction where
  arity : Nat
  run : List Value → Except String Value

namespace HostFunction

/-- Calls a host function on exactly as many arguments as it takes. -/
def call (f : HostFunction) (args : List Value) : Except String Value :=
  if args.length = f.arity then f.run args
  else
    .error ("Expected " ++ toString f.arity ++ " arguments, but got " ++ toString args.length)

/-! ## Typed arguments -/

/-- The types an argument can have. -/
inductive ArgumentType where
  | any | number | integer | truth | text | list
deriving DecidableEq, Repr

namespace ArgumentType

/-- What messages call an argument of the type. -/
def name : ArgumentType → String
  | any => "any value"
  | number => "a number"
  | integer => "an integer"
  | truth => "a boolean"
  | text => "a string"
  | list => "an array"

/-- What the host's function receives for an argument of the type. -/
abbrev Carrier : ArgumentType → Type
  | any => Value
  | number => Float
  | integer => Int64
  | truth => Bool
  | text => String
  | list => List Value

/-- Converts a value to a type. A number is the numeric view; an integer is a numeric view
without fraction, clamped into 64 bits; every value has a truth value; a text is the display
of a scalar; a list is an array and nothing else. -/
def convert? : (t : ArgumentType) → Value → Option t.Carrier
  | any, v => some v
  | number, v => v.number?
  | integer, v =>
    match v.number? with
    | some x => if Number.isWhole x then some (Number.toInt64 x) else none
    | none => none
  | truth, v => some v.isTruthy
  | text, v => if v.isContainer then none else some v.display
  | list, .array items => some items
  | list, _ => none

end ArgumentType

/-- A function of arguments of the given types. -/
abbrev Typed : List ArgumentType → Type
  | [] => Except String Value
  | t :: ts => t.Carrier → Typed ts

/-- Converts the arguments from the place `position` on and passes them to a typed
function. -/
def applyTyped (position : Nat) :
    (types : List ArgumentType) → Typed types → List Value → Except String Value
  | [], f, _ => f
  | t :: ts, f, args =>
    match args.head?.bind t.convert? with
    | some x => applyTyped (position + 1) ts (f x) args.tail
    | none => .error ("Expected argument " ++ toString position ++ " to be " ++ t.name)

/-- The host function of a function on typed arguments. -/
def ofTyped (types : List ArgumentType) (f : Typed types) : HostFunction where
  arity := types.length
  run := applyTyped 0 types f

/-- `if(condition, then, otherwise)`: one of two values. Both have been evaluated. -/
def conditional : HostFunction :=
  ofTyped [.truth, .any, .any] fun condition yes no => .ok (if condition then yes else no)

end HostFunction

end Reckon
