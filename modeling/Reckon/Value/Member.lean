/-
# Reckon.Value.Member — items of arrays and members of objects

`target[selector]` looks into a container. What is not there is nothing, not a fault; only a
target that is no container is refused.
-/
import Reckon.Fault
import Reckon.Number.Binary
import Reckon.Value.View

namespace Reckon.Value

/-- The position that a number selects: a whole number that is not negative. -/
def position? (x : Float) : Option Nat :=
  match Number.Binary.ofFloat x with
  | .finite negative m e =>
    if (Number.Binary.finite negative m e).isWhole && (!negative || m == 0) then
      some (Number.Binary.integerPart m e)
    else none
  | _ => none

/-- The item at a position, counted from zero. -/
def item (items : List Value) (selector : Value) : Value :=
  match selector.number?.bind position? with
  | some i => items.getD i .null
  | none => .null

/-- The member with the selector's display as its name. -/
def member (members : List (String × Value)) (selector : Value) : Value :=
  (members.lookup selector.display).getD .null

/-- `target[selector]`. -/
def index (target selector : Value) : Except Fault Value :=
  match target with
  | array items => .ok (item items selector)
  | object members => .ok (member members selector)
  | other => .error (.invalidSelector other.kind selector.display)

end Reckon.Value
