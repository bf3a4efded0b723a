/-
# Reckon.Proofs.Conversion.Selector — formulas as selectors

A formula that can be converted by itself can be written as a selector of a name, if the converter
allows one more level of selectors: the code is the name, the code of the formula as a selector,
and the index. This holds exactly if the search for the partner of the bracket arrives at the
bracket after the formula. It does unless a pattern literal is in the way: the search passes over
all other lexemes, but it looks into patterns as if they were code (`not_ofFormula_indexText`).
-/
import Reckon.Proofs.Conversion.Grammar
import Reckon.Proofs.Lexeme.Name
import Reckon.Proofs.Lexeme.Passage

namespace Reckon

open Lexeme (Usable CaptureWord PassedOver balancedEnd?)

/-! ## How deeply selectors nest -/

mutual

/-- How deeply the selectors of an instruction nest. -/
def Instruction.selectorDepth : Instruction → Nat
  | .selector body => Code.selectorDepth body + 1
  | .operand _ => 0
  | .operator _ => 0
  | .index => 0
  | .call _ _ => 0

/-- How deeply the selectors of code nest. -/
def Code.selectorDepth : Code → Nat
  | [] => 0
  | i :: rest => max i.selectorDepth (Code.selectorDepth rest)

end

theorem Code.selectorDepth_append (code rest : Code) :
    Code.selectorDepth (code ++ rest) = max code.selectorDepth rest.selectorDepth := by
  induction code with
  | nil => rw [List.nil_append, selectorDepth, Nat.zero_max]
  | cons i code ih => rw [List.cons_append, selectorDepth, ih, selectorDepth, Nat.max_assoc]

theorem Code.selectorDepth_singleton (i : Instruction) :
    Code.selectorDepth [i] = i.selectorDepth := by
  rw [selectorDepth, selectorDepth, Nat.max_zero]

/-! The selectors in the parts of a tree nest no deeper than those in the tree. -/

namespace Expression

variable {k : Nat}

theorem le_of_selectorDepth_prefixed (op : Operator) (isPrefix : op.isPrefix = true)
    {e : Expression} (h : Code.selectorDepth (prefixed op isPrefix e).postorder ≤ k) :
    Code.selectorDepth e.postorder ≤ k := by
  rw [postorder, Code.selectorDepth_append, Nat.max_le] at h
  exact h.1

theorem le_of_selectorDepth_binary (op : Operator) (isBinary : op.isPrefix = false)
    {a b : Expression} (h : Code.selectorDepth (binary op isBinary a b).postorder ≤ k) :
    Code.selectorDepth a.postorder ≤ k ∧ Code.selectorDepth b.postorder ≤ k := by
  rw [postorder, Code.selectorDepth_append, Code.selectorDepth_append, Nat.max_le, Nat.max_le] at h
  exact h.1

theorem lt_of_selectorDepth_index {target body : Expression}
    (h : Code.selectorDepth (index target (selector body)).postorder ≤ k) :
    Code.selectorDepth target.postorder ≤ k ∧ Code.selectorDepth body.postorder < k := by
  rw [postorder, Code.selectorDepth_append, Code.selectorDepth_append, postorder,
    Code.selectorDepth_singleton, Instruction.selectorDepth, Nat.max_le, Nat.max_le] at h
  exact h.1

theorem le_of_selectorDepth_call {name : String} {args : List Expression}
    (h : Code.selectorDepth (call name args).postorder ≤ k) :
    ∀ e ∈ args, Code.selectorDepth e.postorder ≤ k := by
  rw [postorder, Code.selectorDepth_append, Nat.max_le] at h
  replace h := h.1
  induction args with
  | nil => nofun
  | cons e args ih =>
      rw [postorderAll, Code.selectorDepth_append, Nat.max_le] at h
      exact List.forall_mem_cons.2 ⟨h.1, ih h.2⟩

end Expression

namespace DerivesWith

variable {arity? : String → Option Nat} {accepts : String → Nat → Prop} {depth : Nat}
variable {n : Nonterminal} {ts : List Lexeme} {p : Phrase}

/-- A derivation needs no more depth than its code has. -/
theorem of_selectorDepth_le (h : DerivesWith arity? accepts depth n ts p) {k : Nat}
    (hk : p.code.selectorDepth ≤ k) : DerivesWith arity? accepts k n ts p := by
  induction h generalizing k with
  | single hn _ ih => exact .single hn (ih hk)
  | @chain _ _ op _ _ _ _ isBinary hop _ _ ihp ihq =>
      obtain ⟨hp, hq⟩ := Expression.le_of_selectorDepth_binary op isBinary hk
      exact .chain isBinary hop (ihp hp) (ihq hq)
  | juxtaposed hfactor _ _ ihp ihq =>
      obtain ⟨hp, hq⟩ := Expression.le_of_selectorDepth_binary .multiply rfl hk
      exact .juxtaposed hfactor (ihp hp) (ihq hq)
  | raised _ _ ihp ihq =>
      obtain ⟨hp, hq⟩ := Expression.le_of_selectorDepth_binary .power rfl hk
      exact .raised (ihp hp) (ihq hq)
  | negation _ ih => exact .negation (ih (Expression.le_of_selectorDepth_prefixed .negate rfl hk))
  | complement _ ih => exact .complement (ih (Expression.le_of_selectorDepth_prefixed .not rfl hk))
  | index _ hscan _ ihp ihq =>
      obtain ⟨hp, hq⟩ := Expression.lt_of_selectorDepth_index hk
      obtain ⟨k, rfl⟩ := Nat.exists_eq_add_one.2 (Nat.zero_lt_of_lt hq)
      exact .index (ihp hp) hscan (ihq (Nat.le_of_lt_succ hq))
  | operand ht => exact .operand ht
  | group _ ih => exact .group (ih hk)
  | call parts harity _ ih =>
      refine .call parts harity fun part hpart => ih part hpart ?_
      apply Expression.le_of_selectorDepth_call hk
      rw [Phrase.expressions_eq_map]
      exact List.mem_map_of_mem (List.mem_map_of_mem hpart)

/-! ## Derivations of an index -/

/-- Without parentheses nothing but its lexeme is an operand. -/
theorem eq_of_expression_operand (h : DerivesWith arity? accepts depth n ts p) {o : Operand}
    (hp : p.expression = .operand o) : (∃ t, ts = [t]) ∨ ts.head? = some .openParen := by
  induction h with
  | single _ _ ih => exact ih hp
  | operand _ => exact .inl ⟨_, rfl⟩
  | group _ _ => exact .inr rfl
  | _ => cases hp

/-- Without parentheses nothing but two lexemes is an operand with one index. -/
theorem eq_of_expression_index (h : DerivesWith arity? accepts depth n ts p) {o : Operand}
    {key : Expression} (hp : p.expression = .index (.operand o) key) :
    (∃ t raw, ts = [t, .index raw]) ∨ ts.head? = some .openParen := by
  induction h with
  | single _ _ ih => exact ih hp
  | @index _ us _ raw target _ htarget _ _ _ _ =>
      rw [Phrase.expression, Expression.index.injEq] at hp
      rcases htarget.eq_of_expression_operand hp.1 with ⟨t, rfl⟩ | hparen
      · exact .inl ⟨t, raw, rfl⟩
      · exact .inr (by rw [List.head?_append, hparen]; rfl)
  | group _ _ => exact .inr rfl
  | _ => cases hp

end DerivesWith

/-- A selector is read from itself only. -/
theorem Lexeme.readings_eq_index {arity? : String → Option Nat} {ts : List Lexeme} {raw : String}
    (h : Lexeme.readings arity? ts = [.index raw]) : ts = [.index raw] := by
  have hnil : ∀ us, Lexeme.readings arity? us = [] → us = [] := by
    intro us hus
    cases us with
    | nil => rfl
    | cons u us =>
        rw [readings, List.flatMap_cons, List.append_eq_nil_iff, reading.eq_def] at hus
        replace hus := hus.1
        split at hus
        · split at hus <;> cases hus
        · cases hus
  cases ts with
  | nil => cases h
  | cons t ts =>
      rw [readings, List.flatMap_cons, reading.eq_def] at h
      split at h
      · split at h <;> cases h
      · obtain ⟨rfl, hts⟩ := List.cons.inj h
        rw [hnil ts hts]

/-! ## A name with a selector -/

/-- A name with a selector, written out. -/
def indexText (name source : String) : String :=
  name ++ "[" ++ source ++ "]"

theorem toList_indexText (name source : String) :
    (indexText name source).toList = name.toList ++ '[' :: (source.toList ++ [']']) := by
  simp [indexText, String.toList_append]

namespace Lexeme

/-- The name is one lexeme, and the bracket starts the next one. -/
theorem scan_indexText {name : String} (hname : Usable name ∨ CaptureWord name) (source : String) :
    scan (indexText name source)
      = (scanFrom false ('[' :: (source.toList ++ [']']))).map (identifier name :: ·) := by
  rw [scan, toList_indexText]
  rcases hname with husable | hcapture
  · refine husable.scanFrom_identifier true fun c hc => ?_
    cases hc
    decide
  · refine hcapture.scanFrom_identifier true fun c hc => ?_
    cases hc
    decide

theorem dropWhile_isBlank_of_scanFrom {operandDue : Bool} {cs : List Char}
    (h : scanFrom operandDue cs = .ok []) : cs.dropWhile Text.isBlank = [] := by
  cases hcs : cs.dropWhile Text.isBlank with
  | nil => rfl
  | cons c tail =>
      cases hone : scanOne operandDue c tail with
      | error e =>
          rw [scanFrom_of_scanOne_error hcs hone] at h
          cases h
      | ok read =>
          rw [scanFrom_of_scanOne hcs hone] at h
          obtain ⟨ts, -, hts⟩ := Outcome.map_eq_ok_iff.1 h
          cases hts

/-- The bracket and all that follows are one lexeme exactly if the search for the partner of the
bracket arrives at the last character. -/
theorem scanFrom_bracket_iff {source : List Char} {raw : String} :
    scanFrom false ('[' :: (source ++ [']'])) = .ok [index raw] ↔
      balancedEnd? ('[' :: (source ++ [']'])) = some (source.length + 1) ∧
        raw = String.ofList source := by
  have hstart : ('[' :: (source ++ [']'])).dropWhile Text.isBlank = '[' :: (source ++ [']']) := rfl
  have hone : scanOne false '[' (source ++ [']']) = scanBracket false '[' (source ++ [']']) := rfl
  constructor
  · intro h
    cases hend : balancedEnd? ('[' :: (source ++ [']'])) with
    | none =>
        rw [scanBracket, hend] at hone
        rw [scanFrom_of_scanOne_error hstart hone] at h
        cases h
    | some n =>
        have hlt := (closingOffset?_append hend []).2
        rw [List.length_cons, List.length_append, List.length_singleton] at hlt
        rw [scanBracket, hend] at hone
        rw [scanFrom_of_scanOne hstart hone] at h
        obtain ⟨ts, hts, heq⟩ := Outcome.map_eq_ok_iff.1 h
        cases heq
        have hblank := List.dropWhile_eq_nil_iff.1 (dropWhile_isBlank_of_scanFrom hts)
        -- before the end the last bracket is left over
        have hn : n = source.length + 1 := by
          by_contra hne
          have hle : n ≤ source.length := by omega
          rw [List.drop_append_of_le_length hle] at hblank
          have := hblank ']' (List.mem_append_right _ (List.mem_singleton_self _))
          revert this
          decide
        subst hn
        exact ⟨rfl, by rw [Nat.add_sub_cancel, List.take_left]⟩
  · rintro ⟨hend, rfl⟩
    rw [scanBracket_of_balancedEnd? false hend] at hone
    rw [scanFrom_of_scanOne hstart hone, scanFrom_nil]
    rfl

end Lexeme

namespace Code

variable {arity? : String → Option Nat} {limit : Nat} {name source : String} {code : Code}

theorem ofFormula_indexText_of_balancedEnd? (hname : Usable name ∨ CaptureWord name)
    (hcode : ofFormula arity? limit source = .ok code) (hdepth : code.selectorDepth < limit)
    (hend : balancedEnd? ('[' :: (source.toList ++ [']'])) = some (source.toList.length + 1)) :
    ofFormula arity? limit (indexText name source)
      = .ok [.operand (.identifier name), .selector code, .index] := by
  obtain ⟨ts, p, hscan, hp, rfl⟩ := ofFormula_eq_ok_iff.1 hcode
  obtain ⟨k, rfl⟩ := Nat.exists_eq_add_one.2 (Nat.zero_lt_of_lt hdepth)
  have hselector : Lexeme.scan (indexText name source)
      = .ok [.identifier name, .index source] := by
    rw [Lexeme.scan_indexText hname, Lexeme.scanFrom_bracket_iff.2 ⟨hend, rfl⟩,
      String.ofList_toList]
    rfl
  have htarget : Derives arity? (k + 1) .primary [.identifier name] (.operand (.identifier name)) :=
    .operand rfl
  have hindex := DerivesWith.index (htarget.loosen (by decide)) hscan
    (hp.of_selectorDepth_le (Nat.le_of_lt_succ hdepth))
  exact ofFormula_eq_ok_iff.2 ⟨_, _, hselector, hindex.loosen (by decide), rfl⟩

/-- From the code the lexemes can be told: nothing may follow the selector. -/
theorem balancedEnd?_of_ofFormula_indexText (hname : Usable name ∨ CaptureWord name)
    (hcode : ofFormula arity? limit source = .ok code)
    (h : ofFormula arity? limit (indexText name source)
      = .ok [.operand (.identifier name), .selector code, .index]) :
    balancedEnd? ('[' :: (source.toList ++ [']'])) = some (source.toList.length + 1) := by
  obtain ⟨-, q, -, -, rfl⟩ := ofFormula_eq_ok_iff.1 hcode
  obtain ⟨ts, p, hscan, hp, hpq⟩ := ofFormula_eq_ok_iff.1 h
  rw [Lexeme.scan_indexText hname] at hscan
  obtain ⟨us, hus, rfl⟩ := Outcome.map_eq_ok_iff.1 hscan
  have hexpression : p.expression
      = .index (.operand (.identifier name)) (.selector q.expression) :=
    Expression.postorder_injective hpq
  rcases hp.eq_of_expression_index hexpression with ⟨t, raw, heq⟩ | hparen
  · have hrest : Lexeme.readings arity? us = [.index raw] := (List.cons.inj heq).2
    rw [Lexeme.readings_eq_index hrest] at hus
    exact (Lexeme.scanFrom_bracket_iff.1 hus).1
  · cases hparen

/-- A formula `s` that can be converted by itself can be written as a selector, if the converter
allows one more level: with a name before it, `a[s]` has the code of the name, the code of `s` as a
selector, and an index. This is so exactly if the search for the partner of the bracket passes over
`s`, and it does if it passes over the pattern literals in `s`. -/
theorem ofFormula_indexText (scope : Scope) (limit : Nat)
    (hname : Usable name ∨ CaptureWord name)
    (hcode : ofFormula scope.arity? limit source = .ok code)
    (hdepth : code.selectorDepth < limit) :
    (ofFormula scope.arity? limit (indexText name source)
        = .ok [.operand (.identifier name), .selector code, .index] ↔
      balancedEnd? ('[' :: (source.toList ++ [']'])) = some (source.toList.length + 1)) ∧
    ∀ ts, Lexeme.scan source = .ok ts →
      (∀ raw, .pattern raw ∈ ts → PassedOver raw.toList) →
      ofFormula scope.arity? limit (indexText name source)
        = .ok [.operand (.identifier name), .selector code, .index] := by
  have hindex := ofFormula_indexText_of_balancedEnd? hname hcode hdepth
  refine ⟨⟨balancedEnd?_of_ofFormula_indexText hname hcode, hindex⟩, fun ts hscan hpatterns => ?_⟩
  exact hindex ((PassedOver.of_scan hscan hpatterns).balancedEnd?_eq rfl rfl)

/-- A selector with a selector and a pattern in it, neither of which is in the way. -/
theorem ofFormula_indexText_nested :
    let code : Code := [.operand (.identifier "b"), .selector [.operand (.identifier "c")], .index,
      .operand (.pattern "/y/"), .operator .matching]
    (Usable "a" ∨ CaptureWord "a") ∧
      ofFormula Scope.initial.arity? 128 "b[c] =~ /y/" = .ok code ∧ code.selectorDepth < 128 ∧
      (∃ ts, Lexeme.scan "b[c] =~ /y/" = .ok ts ∧
        ∀ raw, .pattern raw ∈ ts → PassedOver raw.toList) ∧
      ofFormula Scope.initial.arity? 128 "a[b[c] =~ /y/]"
        = .ok [.operand (.identifier "a"), .selector code, .index] := by
  intro code
  have hname : Usable "a" := ⟨by decide, by decide⟩
  have hcode : ofFormula Scope.initial.arity? 128 "b[c] =~ /y/" = .ok code := by cbv
  have hdepth : code.selectorDepth < 128 := by decide
  have hscan : Lexeme.scan "b[c] =~ /y/"
      = .ok [.identifier "b", .index "c", .operator .matching, .pattern "/y/"] := by cbv
  have hpatterns : ∀ raw, .pattern raw ∈ [Lexeme.identifier "b", .index "c", .operator .matching,
      .pattern "/y/"] → PassedOver raw.toList := by
    intro raw hraw
    simp only [List.mem_cons, reduceCtorEq, List.not_mem_nil, Lexeme.pattern.injEq, or_false,
      false_or] at hraw
    subst hraw
    have hplain : "/y/".toList.any Lexeme.isMark = false := rfl
    exact .of_unmarked fun c hc => by simpa using List.any_eq_false.1 hplain c hc
  have hindex :=
    (ofFormula_indexText Scope.initial 128 (.inl hname) hcode hdepth).2 _ hscan hpatterns
  exact ⟨.inl hname, hcode, hdepth, ⟨_, hscan, hpatterns⟩, hindex⟩

/-- Not every formula can be written as a selector: the bracket in the pattern of `x =~ /]/` is
taken for the one that ends the selector. -/
theorem not_ofFormula_indexText :
    ¬ ∀ (scope : Scope) (limit : Nat) (name source : String) (code : Code),
      Usable name ∨ CaptureWord name → ofFormula scope.arity? limit source = .ok code →
      code.selectorDepth < limit →
      ofFormula scope.arity? limit (indexText name source)
        = .ok [.operand (.identifier name), .selector code, .index] := by
  intro h
  have hname : Usable "a" := ⟨by decide, by decide⟩
  have hcode : ofFormula Scope.initial.arity? 128 "x =~ /]/"
      = .ok [.operand (.identifier "x"), .operand (.pattern "/]/"), .operator .matching] := by
    cbv
  have hindex := h Scope.initial 128 "a" "x =~ /]/" _ (.inl hname) hcode (by decide)
  have hend := balancedEnd?_of_ofFormula_indexText (.inl hname) hcode hindex
  revert hend
  decide

end Code

end Reckon
