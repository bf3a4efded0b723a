/-
# Reckon.Value.Basic — the values of formulas

A formula evaluates to a value of one of six kinds: nothing, a truth value, a number, a
text, an array or an object. Arrays and objects come from JSON literals and from host
functions; the language looks into them but has no operation that builds one.

The members of an object are listed in the order of their names, each name once. The list
of a nested type cannot carry that as a proof, so it is the predicate `Value.WellFormed`,
which the reader of JSON establishes and no operation breaks.
-/
import Reckon.Table

namespace Reckon

/-- A value of the formula language. -/
inductive Value where
  | null
  | bool (b : Bool)
  | number (x : Float)
  | text (s : String)
  | array (items : List Value)
  | object (members : List (String × Value))
deriving Inhabited

namespace Value

/-- The kinds of values, as messages name them. -/
inductive Kind where
  | null | bool | number | string | array | object
deriving DecidableEq, Repr

/-- The name of a kind. -/
def Kind.name : Kind → String
  | null => "null"
  | bool => "bool"
  | number => "number"
  | string => "string"
  | array => "array"
  | object => "object"

/-- The kind of a value. -/
def kind : Value → Kind
  | .null => .null
  | .bool _ => .bool
  | .number _ => .number
  | .text _ => .string
  | .array _ => .array
  | .object _ => .object

/-- Arrays and objects are containers; every other value is a scalar. -/
def isContainer : Value → Bool
  | array _ | object _ => true
  | _ => false

/-- What counts as true for `!`, `&&` and `||`: everything but nothing, `false`, zero, the
empty text, the text `0` and the empty array. An object counts as true even when empty, and
so does the number that is not a number. -/
def isTruthy : Value → Bool
  | null => false
  | bool b => b
  | number x => x != 0.0
  | text s => s != "" && s != "0"
  | array items => !items.isEmpty
  | object _ => true

/-- Every object in the value lists its members in the order of their names, each once. -/
inductive WellFormed : Value → Prop
  | null : WellFormed null
  | bool (b : Bool) : WellFormed (bool b)
  | number (x : Float) : WellFormed (number x)
  | text (s : String) : WellFormed (text s)
  | array (items : List Value) (each : ∀ v ∈ items, WellFormed v) : WellFormed (array items)
  | object (members : List (String × Value)) (sorted : Entries.Sorted members)
      (each : ∀ m ∈ members, WellFormed m.2) : WellFormed (object members)

end Value

end Reckon
