/-
# Reckon.Function.Sample — ready-made host functions

Host functions that an embedding can register under names of its own: one for each type of
argument, some of several arguments, and some that fail.
-/
import Reckon.Function.Host

namespace Reckon.HostFunction

open ArgumentType

/-- The larger of a number and a bound; of a pair with one that is not a number, the
other. -/
def atLeast (x bound : Float) : Float :=
  if x.isNaN then bound else if bound.isNaN then x else if x < bound then bound else x

/-- The smaller of a number and a bound; of a pair with one that is not a number, the
other. -/
def atMost (x bound : Float) : Float :=
  if x.isNaN then bound else if bound.isNaN then x else if bound < x then bound else x

/-- The item of a list at a position, and nothing for a position outside it. -/
def nthItem (items : List Value) (i : Int64) : Value :=
  if i < 0 then .null else items.getD i.toInt.toNat .null

/-- The sum of the numeric views of some values. -/
def sumOfViews (args : List Value) : Except String Value := do
  let total ← args.foldlM (fun total v =>
    match v.number? with
    | some x => .ok (total + x)
    | none => .error "not a number") 0.0
  return .number total

/-- The ready-made host functions with their names. -/
def samples : List (String × HostFunction) :=
  [("answer", ofTyped [] (.ok (.number 42.0))),
    ("echo", ofTyped [any] fun v => .ok v),
    ("num", ofTyped [number] fun x => .ok (.number x)),
    ("int", ofTyped [integer] fun n => .ok (.number (Number.ofInt64 n))),
    ("flag", ofTyped [truth] fun b => .ok (.bool b)),
    ("text", ofTyped [text] fun s => .ok (.text s)),
    ("size", ofTyped [list] fun items => .ok (.number (Float.ofNat items.length))),
    ("fail", ofTyped [text] fun s => .error s),
    ("add", ofTyped [number, number] fun x y => .ok (.number (x + y))),
    ("divide", ofTyped [number, number] fun x y =>
      if y == 0.0 then .error "divide by zero" else .ok (.number (x / y))),
    ("nth", ofTyped [list, integer] fun items i => .ok (nthItem items i)),
    ("clamp", ofTyped [number, number, number] fun x low high =>
      .ok (.number (atMost (atLeast x low) high))),
    ("join4", ofTyped [text, text, text, text] fun a b c d =>
      .ok (.text (a ++ "|" ++ b ++ "|" ++ c ++ "|" ++ d))),
    ("list5", ofTyped [any, any, any, any, any] fun a b c d e =>
      .ok (.array [a, b, c, d, e])),
    ("six", ofTyped [any, number, integer, truth, text, list] fun v x n b s items =>
      .ok (.array [v, .number x, .number (Number.ofInt64 n), .bool b, .text s,
        .array items])),
    ("raw3", ⟨3, sumOfViews⟩),
    ("if", conditional)]

/-- The ready-made host function of a name. -/
def sample? (name : String) : Option HostFunction :=
  samples.lookup name

end Reckon.HostFunction
