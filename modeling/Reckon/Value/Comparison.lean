/-
# Reckon.Value.Comparison — equality and order of values

Two scalars compare as numbers if both have a numeric view and as displays otherwise. Two
containers are equal if their canonical JSON is the same; a container equals no scalar, and
containers are not ordered.
-/
import Reckon.Fault
import Reckon.Value.View

namespace Reckon.Value

/-- The order of two numbers; there is none if either is not a number. -/
def compareNumbers (x y : Float) : Option Ordering :=
  if x < y then some .lt
  else if x == y then some .eq
  else if y < x then some .gt
  else none

/-- The order of two texts: that of their first different characters, by code point. -/
def compareTexts (a b : String) : Ordering :=
  if a < b then .lt else if a = b then .eq else .gt

/-- The equality of `==`. -/
def looseEq (a b : Value) : Bool :=
  if a.isContainer && b.isContainer then a.json == b.json
  else if a.isContainer || b.isContainer then false
  else
    match a.number?, b.number? with
    | some x, some y => x == y
    | _, _ => a.display == b.display

/-- The order of `<`, `>`, `<=` and `>=`, for the operator with the given symbol. -/
def compare (symbol : String) (a b : Value) : Except Fault (Option Ordering) :=
  if a.isContainer then .error (.typeMismatch symbol a.kind)
  else if b.isContainer then .error (.typeMismatch symbol b.kind)
  else
    match a.number?, b.number? with
    | some x, some y => .ok (compareNumbers x y)
    | _, _ => .ok (some (compareTexts a.display b.display))

end Reckon.Value
