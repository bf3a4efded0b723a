/-
# Reckon.Proofs.Conversion.Call — a call that is written out

The text of a call is a name, and in parentheses the texts of its arguments with commas between
them. If the arguments can be converted by themselves and the name stands for a function that
takes so many, then the call can be converted: its code is the code of the arguments, one after
the other, and then the call.
-/
import Mathlib.Data.List.Forall2
import Reckon.Proofs.Conversion.Grammar
import Reckon.Proofs.Lexeme.Name

namespace Reckon

/-- What takes appended lists apart takes separated ones apart, too. -/
theorem map_intercalate_of_append {α β : Type} {f : List α → List β} (hnil : f [] = [])
    (happend : ∀ xs ys, f (xs ++ ys) = f xs ++ f ys) (separator : List α) (xss : List (List α)) :
    f (separator.intercalate xss) = (f separator).intercalate (xss.map f) := by
  induction xss with
  | nil => exact hnil
  | cons xs xss ih =>
      cases xss with
      | nil => rw [List.map_singleton, List.intercalate_singleton, List.intercalate_singleton]
      | cons ys xss =>
          rw [List.map_cons, List.map_cons, List.intercalate_cons_cons, List.intercalate_cons_cons,
            happend, happend, ih, List.map_cons]

open Lexeme (Usable scanFrom)

/-- A call, written out. -/
def callText (name : String) (args : List String) : String :=
  name ++ "(" ++ ",".intercalate args ++ ")"

theorem toList_callText (name : String) (args : List String) :
    (callText name args).toList
      = name.toList ++ '(' :: ([','].intercalate (args.map String.toList) ++ [')']) := by
  rw [callText, String.toList_append, String.toList_append, String.toList_append,
    String.toList_intercalate]
  simp

/-! ## Lexemes -/

namespace Lexeme

theorem scanFrom_comma (operandDue : Bool) (rest : List Char) :
    scanFrom operandDue (',' :: rest) = (scanFrom true rest).map (comma :: ·) :=
  scanFrom_of_scanOne rfl rfl

theorem scanFrom_closeParen (operandDue : Bool) (rest : List Char) :
    scanFrom operandDue (')' :: rest) = (scanFrom false rest).map (closeParen :: ·) :=
  scanFrom_of_scanOne rfl rfl

/-- The lexemes of arguments that are written out, up to the parenthesis that closes them. -/
theorem scanFrom_arguments {args : List (List Char)} {tss : List (List Lexeme)}
    (h : List.Forall₂ (fun arg ts => scanFrom true arg = .ok ts) args tss) :
    scanFrom true ([','].intercalate args ++ [')'])
      = .ok ([comma].intercalate tss ++ [closeParen]) := by
  induction h with
  | nil =>
      rw [List.intercalate_nil, List.nil_append, scanFrom_closeParen, scanFrom_nil]
      rfl
  | @cons arg ts args tss harg hargs ih =>
      cases hargs with
      | nil =>
          rw [List.intercalate_singleton, List.intercalate_singleton,
            scanFrom_append harg (separated_cons rfl _), scanFrom_closeParen, scanFrom_nil]
          rfl
      | cons _ _ =>
          rw [List.intercalate_cons_cons, List.intercalate_cons_cons, List.append_assoc,
            List.append_assoc, List.singleton_append, scanFrom_append harg (separated_cons rfl _),
            scanFrom_comma, ih, List.append_assoc, List.append_assoc]
          rfl

/-- The lexemes of a call that is written out. -/
theorem scan_callText {name : String} (hname : Usable name) {args : List String}
    {tss : List (List Lexeme)} (h : List.Forall₂ (fun arg ts => scan arg = .ok ts) args tss) :
    scan (callText name args)
      = .ok (call name :: [comma].intercalate tss ++ [closeParen]) := by
  have hargs : List.Forall₂ (fun arg ts => scanFrom true arg = .ok ts) (args.map String.toList)
      tss := List.forall₂_map_left_iff.2 h
  rw [scan, toList_callText, hname.scanFrom_call, scanFrom_arguments hargs]
  rfl

/-! ## Derivations -/

variable {arity? : String → Option Nat}

theorem readings_append (ts us : List Lexeme) :
    readings arity? (ts ++ us) = readings arity? ts ++ readings arity? us :=
  List.flatMap_append

/-- Arguments are read one by one. -/
theorem readings_intercalate_comma (tss : List (List Lexeme)) :
    readings arity? ([comma].intercalate tss) = [comma].intercalate (tss.map (readings arity?)) :=
  map_intercalate_of_append rfl readings_append [comma] tss

end Lexeme

theorem Expression.postorderAll_eq_flatten (es : List Expression) :
    postorderAll es = (es.map postorder).flatten := by
  induction es with
  | nil => rfl
  | cons e es ih => rw [postorderAll, ih, List.map_cons, List.flatten_cons]

theorem Phrase.code_call (name : String) (args : List Phrase) :
    (Phrase.call name args).code
      = (args.map Phrase.code).flatten ++ [.call name args.length] := by
  rw [code, expression, Expression.postorder, Expression.postorderAll_eq_flatten,
    expressions_eq_map, List.map_map, List.length_map]
  rfl

/-! ## Conversion -/

section

variable {arity? : String → Option Nat} {limit : Nat} {args : List String} {codes : List Code}

/-- The lexemes and the derivation trees of arguments that can be converted. -/
theorem Code.exists_parts_of_ofFormula
    (h : List.Forall₂ (fun arg code => Code.ofFormula arity? limit arg = .ok code) args codes) :
    ∃ parts : List (List Lexeme × Phrase),
      List.Forall₂ (fun arg ts => Lexeme.scan arg = .ok ts) args (parts.map Prod.fst) ∧
      (∀ part ∈ parts, Derives arity? limit .logical (Lexeme.readings arity? part.1) part.2) ∧
      codes = (parts.map Prod.snd).map Phrase.code := by
  induction h with
  | nil => exact ⟨[], .nil, nofun, rfl⟩
  | cons hcode _ ih =>
      obtain ⟨ts, p, hscan, hp, rfl⟩ := Code.ofFormula_eq_ok_iff.1 hcode
      obtain ⟨parts, hscans, hderives, rfl⟩ := ih
      refine ⟨(ts, p) :: parts, .cons hscan hscans, fun part hpart => ?_, rfl⟩
      rcases List.mem_cons.1 hpart with rfl | hpart
      · exact hp
      · exact hderives part hpart

/-- A call of a known function is converted to the code of its arguments, and then the call. -/
theorem Code.ofFormula_callText {name : String} (hname : Usable name)
    (harity : arity? name = some args.length)
    (hargs : List.Forall₂ (fun arg code => Code.ofFormula arity? limit arg = .ok code)
      args codes) :
    Code.ofFormula arity? limit (callText name args)
      = .ok (codes.flatten ++ [.call name args.length]) := by
  obtain ⟨parts, hscans, hderives, rfl⟩ := Code.exists_parts_of_ofFormula hargs
  have hlength : parts.length = args.length := by
    rw [hscans.length_eq, List.length_map]
  let read := parts.map fun part => (Lexeme.readings arity? part.1, part.2)
  have htexts : read.map Prod.fst = (parts.map Prod.fst).map (Lexeme.readings arity?) := by
    rw [List.map_map, List.map_map]
    rfl
  have hphrases : read.map Prod.snd = parts.map Prod.snd := by
    rw [List.map_map]
    rfl
  have hcall : Derives arity? limit .primary
      (.call name :: [.comma].intercalate (read.map Prod.fst) ++ [.closeParen])
      (.call name (read.map Prod.snd)) := by
    refine .call read (harity.trans (by rw [List.length_map, hlength])) fun part hpart => ?_
    obtain ⟨part', hpart', rfl⟩ := List.mem_map.1 hpart
    exact hderives part' hpart'
  have hreadings : Lexeme.readings arity?
      (.call name :: [.comma].intercalate (parts.map Prod.fst) ++ [.closeParen])
        = .call name :: [.comma].intercalate (read.map Prod.fst) ++ [.closeParen] := by
    have hname : Lexeme.readings arity? [.call name] = [.call name] := by
      rw [Lexeme.readings, List.flatMap_singleton, Lexeme.reading,
        if_pos (by rw [harity, Option.isSome_some])]
    rw [← List.singleton_append, Lexeme.readings_append, Lexeme.readings_append, hname, htexts,
      Lexeme.readings_intercalate_comma]
    rfl
  refine Code.ofFormula_eq_ok_iff.2
    ⟨_, .call name (read.map Prod.snd), Lexeme.scan_callText hname hscans, ?_, ?_⟩
  · rw [hreadings]
    exact hcall.loosen (by decide)
  · rw [Phrase.code_call, hphrases, List.length_map, hlength]

end

end Reckon
