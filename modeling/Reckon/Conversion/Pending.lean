/-
# Reckon.Conversion.Pending — what waits while a formula is converted

Conversion puts operators aside until their right operand is complete, and parentheses until
they close. What waits is a stack, written with its top first. A call waits as three entries:
its name at the bottom, the count of its arguments, and the parenthesis it opened.
-/
import Reckon.Operator

namespace Reckon

/-- An entry of the stack of a conversion. -/
inductive Pending where
  | operator (op : Operator)
  | openParen
  | call (name : String)
  | argumentCount (n : Nat)
deriving DecidableEq, Repr

namespace Pending

/-- The entry `depth` places down from the top; the top is at place one, and nothing is at
place zero. -/
def peek? (depth : Nat) (stack : List Pending) : Option Pending :=
  match depth with
  | 0 => none
  | n + 1 => stack[n]?

/-! ## Counting arguments

The counter of the innermost open call lies below the parenthesis that the call has opened. What
waits above the parenthesis is lifted off to get at the counter, and put back afterwards, also where
there turns out to be no counter. -/

/-- Lifts entries off a stack until the innermost open parenthesis has come off, which is not kept.
The result is what has been lifted, with the last entry first, and what is left below the
parenthesis, if there was one. -/
def lift (lifted : List Pending) : List Pending → List Pending × Option (List Pending)
  | [] => (lifted, none)
  | openParen :: below => (lifted, some below)
  | entry :: rest => lift (entry :: lifted) rest

/-- Puts lifted entries back onto a stack, the last one first. -/
def restore : List Pending → List Pending → List Pending
  | [], stack => stack
  | entry :: lifted, stack => restore lifted (entry :: stack)

/-- Adds one to the counter on top of a stack, and says whether there is one. -/
def incrementTop : List Pending → Bool × List Pending
  | argumentCount n :: rest => (true, argumentCount (n + 1) :: rest)
  | stack => (false, stack)

/-- Counts one more argument of the innermost open call, and says whether the innermost open
parenthesis belongs to a call. -/
def increment (stack : List Pending) : Bool × List Pending :=
  match lift [] stack with
  | (lifted, none) => (false, restore lifted [])
  | (lifted, some below) =>
    let (counted, below) := incrementTop below
    (counted, restore lifted (openParen :: below))

end Pending

end Reckon
