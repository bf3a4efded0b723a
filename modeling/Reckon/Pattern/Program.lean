/-
# Reckon.Pattern.Program — patterns as automata

A pattern becomes a list of steps, each naming the steps that may follow. It is built from
its end backwards: `compile` is told which step comes next and returns the step to start at.
Only loops need to name a step that is not there yet; they reserve a place for it first.

An option that may match the empty text over and over needs care: a loop around such a body
is compiled as an optional loop that runs at least once, so that the preference between
going on and leaving is right on the first round as well.
-/
import Reckon.Pattern.Tree

namespace Reckon.Pattern

/-- A step of an automaton. -/
inductive Step where
  | accept
  | read (s : CharSet) (next : Nat)
  | check (l : Look) (next : Nat)
  /-- Notes the current place under a number. -/
  | note (slot next : Nat)
  /-- Goes on at one of several steps, the earlier ones preferred. -/
  | branch (options : List Nat)
deriving DecidableEq, Repr

/-- Steps under construction. -/
abbrev Steps := Array Step

/-- A part of a pattern, compiled: from the step that comes next and the steps so far to the
step to start at and the steps with the part's own. -/
abbrev Compiled := Nat → Steps → Nat × Steps

/-- Adds a step. -/
def add (step : Step) (steps : Steps) : Nat × Steps :=
  (steps.size, steps.push step)

/-- The choice between going into a body and leaving it. -/
def enterOrLeave (greedy : Bool) (enter leave : Nat) : Step :=
  .branch (if greedy then [enter, leave] else [leave, enter])

/-- A body so many times in a row. -/
def copies (body : Compiled) : Nat → Compiled
  | 0, next, steps => (next, steps)
  | n + 1, next, steps =>
    let (entry, steps) := body next steps
    copies body n entry steps

/-- A body up to so many times in a row, each round inside the one before it; leaving any
round leads to `exit`. -/
def options (body : Compiled) (greedy : Bool) (exit : Nat) : Nat → Compiled
  | 0, next, steps => (next, steps)
  | n + 1, next, steps =>
    let (entry, steps) := body next steps
    let (choice, steps) := add (enterOrLeave greedy entry exit) steps
    options body greedy exit n choice steps

/-- A body at least once, and then any number of times. The result has the step that
decides on another round, the step to start at, and the steps. -/
def loop (body : Compiled) (greedy : Bool) (next : Nat) (steps : Steps) :
    Nat × Nat × Steps :=
  let (decision, steps) := add .accept steps
  let (entry, steps) := body decision steps
  (decision, entry, steps.setIfInBounds decision (enterOrLeave greedy entry next))

/-- A text, character by character. -/
def spell : List Char → Compiled
  | [], next, steps => (next, steps)
  | c :: cs, next, steps =>
    let (entry, steps) := spell cs next steps
    add (.read (.single c) entry) steps

/-- Compiles a pattern. -/
def compile : Tree → Compiled
  | .empty, next, steps => (next, steps)
  | .literal text, next, steps => spell text next steps
  | .one _ s, next, steps => add (.read s next) steps
  | .look l, next, steps => add (.check l next) steps
  | .seq first second, next, steps =>
    let (entry, steps) := compile second next steps
    compile first entry steps
  | .choice preferred other, next, steps =>
    let (a, steps) := compile preferred next steps
    let (b, steps) := compile other next steps
    add (.branch [a, b]) steps
  | .group number body, next, steps =>
    let (close, steps) := add (.note (2 * number + 1) next) steps
    let (entry, steps) := compile body close steps
    add (.note (2 * number) entry) steps
  | .repeated body atLeast (some atMost) greedy, next, steps =>
    let (rest, steps) :=
      options (compile body) greedy next (atMost - atLeast) next steps
    copies (compile body) atLeast rest steps
  | .repeated body 0 none greedy, next, steps =>
    let (decision, entry, steps) := loop (compile body) greedy next steps
    -- a body that always reads a character cannot come round without having moved on
    if body.consumes then (decision, steps)
    else add (enterOrLeave greedy entry next) steps
  | .repeated body (n + 1) none greedy, next, steps =>
    let (_, entry, steps) := loop (compile body) greedy next steps
    copies (compile body) n entry steps

/-- A compiled pattern. -/
structure Program where
  steps : Steps
  start : Nat
  /-- How many groups there are, the whole match included. -/
  groups : Nat

/-- Compiles a whole pattern, whose match is group zero. -/
def Program.ofTree (t : Tree) : Program :=
  let (start, steps) := compile (.group 0 t) 0 #[.accept]
  { steps, start, groups := t.lastGroup + 1 }

end Reckon.Pattern
