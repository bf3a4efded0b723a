/-
# Reckon.Pattern.Search — the leftmost preferred match

The text is read once, with a list of threads beside it: each thread is a step of the
program to go on at and the places it has noted, and the list is in order of preference.
A step is followed at most once at every place of the text, by the thread that comes to it
first. So the time is bounded by the product of the sizes of program and text, and the match
found is the leftmost one, and among those the one that the choices of the pattern prefer.
-/
import Reckon.Pattern.Program

namespace Reckon.Pattern

/-- The places noted so far. -/
abbrev Notes := Array (Option Nat)

/-- A step to go on at, with the places noted on the way. -/
structure Thread where
  step : Nat
  notes : Notes

/-- Follows all steps that read no character, in order of preference, and collects the
threads that stop at a `read` or `accept`, the latest first. Every step is followed once; the
first argument bounds how many threads are looked at. -/
def follow (steps : Steps) (place : Nat) (before after : Option Char) :
    Nat → List Thread → Array Bool → List Thread → List Thread
  | 0, _, _, found => found
  | _ + 1, [], _, found => found
  | fuel + 1, t :: todo, seen, found =>
    if seen.getD t.step true then follow steps place before after fuel todo seen found
    else
      let seen := seen.setIfInBounds t.step true
      match steps[t.step]? with
      | none => follow steps place before after fuel todo seen found
      | some .accept => follow steps place before after fuel todo seen (t :: found)
      | some (.read _ _) => follow steps place before after fuel todo seen (t :: found)
      | some (.check l next) =>
        if l.holds before after then
          follow steps place before after fuel ({ t with step := next } :: todo) seen found
        else follow steps place before after fuel todo seen found
      | some (.note slot next) =>
        let t := { step := next, notes := t.notes.setIfInBounds slot (some place) }
        follow steps place before after fuel (t :: todo) seen found
      | some (.branch options) =>
        let ts := options.map fun next => { t with step := next }
        follow steps place before after fuel (ts ++ todo) seen found

/-- Moves the threads over a character, up to the first one that accepts: it is a match, and
the threads it is preferred to are dropped. -/
def advance (steps : Steps) (c : Option Char) :
    List Thread → Option Notes → List Thread × Option Notes
  | [], best => ([], best)
  | t :: ts, best =>
    match steps[t.step]? with
    -- all that is left of the list is preferred less than this match
    | some .accept => ([], some t.notes)
    | some (.read s next) =>
      let (moved, best) := advance steps c ts best
      if c.any s.contains then ({ t with step := next } :: moved, best) else (moved, best)
    | _ => advance steps c ts best

/-- Searches from a place on. A search that has found a match starts no new threads, and
ends when no thread is left that could be preferred to it. -/
def searchFrom (p : Program) (place : Nat) (before : Option Char) (threads : List Thread)
    (best : Option Notes) (rest : List Char) : Option Notes :=
  let fresh : Thread := ⟨p.start, Array.replicate (2 * p.groups) none⟩
  let threads := if best.isNone then threads ++ [fresh] else threads
  let seen := Array.replicate p.steps.size false
  -- each step is followed once and puts at most two threads on the list
  let fuel := threads.length + 2 * p.steps.size + 1
  let stopped := (follow p.steps place before rest.head? fuel threads seen []).reverse
  let (moved, best) := advance p.steps rest.head? stopped best
  match rest with
  | [] => best
  | c :: rest =>
    if moved.isEmpty && best.isSome then best
    else searchFrom p (place + 1) (some c) moved best rest

/-- The stretch of a text between two places. -/
def stretch (text : List Char) (first last : Nat) : List Char :=
  (text.drop first).take (last - first)

/-- The texts of the groups of a match; a group that took no part in it is empty. -/
def groupTexts (text : List Char) (groups : Nat) (notes : Notes) : List (List Char) :=
  (List.range groups).map fun i =>
    match notes.getD (2 * i) none, notes.getD (2 * i + 1) none with
    | some first, some last => stretch text first last
    | _, _ => []

/-- Searches a text for a pattern. The result lists the whole match and then the groups. -/
def Program.search? (p : Program) (text : List Char) : Option (List (List Char)) :=
  (searchFrom p 0 none [] none text).map (groupTexts text p.groups)

end Reckon.Pattern
