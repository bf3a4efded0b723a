/-
# Reckon.Proofs.Evaluation.Comparison — the six comparisons agree with each other

Equality and order are two functions, and each chooses between numbers and displays on its own.
On scalars they choose alike: both read their answer off one order of the operands
(`Value.order?`), which is missing exactly if both are numbers and one of them is not a number.
What the six operators have to do with each other is then a matter of the four possible orders.
-/
import Mathlib.Logic.ExistsUnique
import Reckon.Evaluation.Machine
import Reckon.Proofs.Number.Order

namespace Reckon

namespace Value

variable {a b : Value}

/-! ## The order of two scalars -/

/-- The order of two scalars: as numbers if both have a numeric view, and as displays otherwise. -/
def order? (a b : Value) : Option Ordering :=
  match a.number?, b.number? with
  | some x, some y => compareNumbers x y
  | _, _ => some (compareTexts a.display b.display)

/-- Both operands have a numeric view, and one of these is not a number. -/
def Unordered (a b : Value) : Prop :=
  ∃ x y, a.number? = some x ∧ b.number? = some y ∧ (x.isNaN = true ∨ y.isNaN = true)

theorem compareTexts_swap (s t : String) : compareTexts t s = (compareTexts s t).swap :=
  Std.OrientedOrd.eq_swap (α := String)

theorem compareTexts_eq_eq_iff (s t : String) : compareTexts s t = .eq ↔ s = t :=
  Std.LawfulEqOrd.compare_eq_iff_eq (α := String)

theorem order?_swap (a b : Value) : order? b a = (order? a b).map Ordering.swap := by
  have htexts := congrArg some (compareTexts_swap a.display b.display)
  unfold order?
  cases a.number? with
  | none => cases b.number? <;> exact htexts
  | some x =>
      cases b.number? with
      | none => exact htexts
      | some y => exact Number.compareNumbers_swap x y

theorem order?_eq_none_iff : order? a b = none ↔ Unordered a b := by
  unfold order? Unordered
  cases a.number? with
  | none => simp
  | some x =>
      cases b.number? with
      | none => simp
      | some y => simp [Number.compareNumbers_eq_none_iff]

/-- The order of the operators, on scalars. -/
theorem compare_eq_order? (ha : a.isContainer = false) (hb : b.isContainer = false)
    (symbol : String) : compare symbol a b = .ok (order? a b) := by
  unfold compare order?
  rw [ha, hb]
  cases a.number? with
  | none => rfl
  | some x => cases b.number? <;> rfl

/-- Equality takes the same branch as the order. -/
theorem looseEq_eq_order? (ha : a.isContainer = false) (hb : b.isContainer = false) :
    looseEq a b = (order? a b == some .eq) := by
  have htexts : (a.display == b.display)
      = (some (compareTexts a.display b.display) == some .eq) := by
    rw [Bool.eq_iff_iff, beq_iff_eq, beq_iff_eq, Option.some_inj, compareTexts_eq_eq_iff]
  unfold looseEq order?
  rw [ha, hb]
  cases a.number? with
  | none => exact htexts
  | some x =>
      cases b.number? with
      | none => exact htexts
      | some y => exact Number.beq_eq_compareNumbers x y

end Value

namespace Machine

variable {a b : Value} {op : Operator}

/-! ## The operators -/

/-- The operators that compare their operands. -/
def comparisons : List Operator :=
  [.less, .lessEqual, .greater, .greaterEqual, .equal, .notEqual]

/-- What a comparison says of operands in a given order. -/
def verdict : Operator → Option Ordering → Bool
  | .less, o => o.any Ordering.isLT
  | .lessEqual, o => o.any Ordering.isLE
  | .greater, o => o.any Ordering.isGT
  | .greaterEqual, o => o.any Ordering.isGE
  | .equal, o => o == some .eq
  | .notEqual, o => !(o == some .eq)
  | _, _ => false

/-- An operator gives `true` and leaves the captures alone. -/
def Holds (op : Operator) (a b : Value) : Prop :=
  ∀ captures, (binary op a b).run captures = (.ok (.bool true), captures)

/-- On scalars a comparison does not fail; its answer is read off their order. -/
theorem binary_run_comparison (ha : a.isContainer = false) (hb : b.isContainer = false)
    (hop : op ∈ comparisons) (captures : Captures) :
    (binary op a b).run captures = (.ok (.bool (verdict op (a.order? b))), captures) := by
  have hordered : ∀ accepts, (lift (ordered op accepts a b)).run captures
      = (.ok (.bool ((a.order? b).any accepts)), captures) := by
    intro accepts
    rw [ordered, Value.compare_eq_order? ha hb]
    rfl
  have hequal := Value.looseEq_eq_order? ha hb
  simp only [comparisons, List.mem_cons, List.not_mem_nil, or_false] at hop
  rcases hop with rfl | rfl | rfl | rfl | rfl | rfl
  case inr.inr.inr.inr.inl => rw [binary, hequal]; rfl
  case inr.inr.inr.inr.inr => rw [binary, hequal]; rfl
  all_goals exact hordered _

theorem holds_iff_verdict (ha : a.isContainer = false) (hb : b.isContainer = false)
    (hop : op ∈ comparisons) : Holds op a b ↔ verdict op (a.order? b) = true := by
  have hrun := binary_run_comparison ha hb hop
  constructor
  · intro h
    have heq := (hrun []).symm.trans (h [])
    exact Value.bool.inj (Except.ok.inj (congrArg Prod.fst heq))
  · intro h captures
    rw [hrun captures, h]

/-- The verdicts agree with each other, whatever the order and if there is none. -/
theorem verdict_coherent (o : Option Ordering) :
    verdict .lessEqual o = (verdict .less o || verdict .equal o) ∧
    verdict .greaterEqual o = (verdict .greater o || verdict .equal o) ∧
    verdict .less o = verdict .greater (o.map Ordering.swap) ∧
    verdict .equal o = verdict .equal (o.map Ordering.swap) ∧
    verdict .notEqual o = !verdict .equal o := by
  rcases o with _ | _ | _ | _ <;> decide

/-- Operands in some order satisfy one of `<`, `==` and `>`. -/
theorem existsUnique_verdict (o : Ordering) :
    ∃! op, op ∈ [Operator.less, .equal, .greater] ∧ verdict op (some o) = true := by
  cases o with
  | lt => exact ⟨.less, by decide, by simp [verdict]⟩
  | eq => exact ⟨.equal, by decide, by simp [verdict]⟩
  | gt => exact ⟨.greater, by decide, by simp [verdict]⟩

theorem verdict_none (hop : op ∈ [Operator.less, .equal, .greater]) : verdict op none = false := by
  simp only [List.mem_cons, List.not_mem_nil, or_false] at hop
  rcases hop with rfl | rfl | rfl <;> rfl

/-- The comparisons of two scalars never fail and agree with each other. Whichever way their
operands convert, `<=` is `<` or `==`, `>=` is `>` or `==`, `!=` is the opposite of `==`, and the
operands can change sides. Exactly one of `<`, `==` and `>` holds, unless the operands compare as
numbers and one of them is not a number: then none of the three does. -/
theorem comparisons_coherent (ha : a.isContainer = false) (hb : b.isContainer = false) :
    (∀ op ∈ comparisons, ∃ r, ∀ captures,
      (binary op a b).run captures = (.ok (.bool r), captures)) ∧
    (Holds .lessEqual a b ↔ Holds .less a b ∨ Holds .equal a b) ∧
    (Holds .greaterEqual a b ↔ Holds .greater a b ∨ Holds .equal a b) ∧
    (Holds .less a b ↔ Holds .greater b a) ∧
    (Holds .equal a b ↔ Holds .equal b a) ∧
    (Holds .notEqual a b ↔ ¬ Holds .equal a b) ∧
    (¬ a.Unordered b → ∃! op, op ∈ [Operator.less, .equal, .greater] ∧ Holds op a b) ∧
    (a.Unordered b → ∀ op ∈ [Operator.less, .equal, .greater], ¬ Holds op a b) := by
  have hrun : ∀ op ∈ comparisons, ∃ r, ∀ captures,
      (binary op a b).run captures = (.ok (.bool r), captures) := by
    intro op hop
    exact ⟨verdict op (a.order? b), binary_run_comparison ha hb hop⟩
  have hlocal : ∀ {op}, op ∈ comparisons → (Holds op a b ↔ verdict op (a.order? b) = true) :=
    holds_iff_verdict ha hb
  have hswapped : ∀ {op}, op ∈ comparisons →
      (Holds op b a ↔ verdict op ((a.order? b).map Ordering.swap) = true) := by
    intro op hop
    rw [holds_iff_verdict hb ha hop, Value.order?_swap]
  have hthree : [Operator.less, .equal, .greater] ⊆ comparisons := by decide
  obtain ⟨hlessEqual, hgreaterEqual, hsides, hsymmetric, hnotEqual⟩ :=
    verdict_coherent (a.order? b)
  refine ⟨hrun, ?_, ?_, ?_, ?_, ?_, ?_, ?_⟩
  · rw [hlocal (by decide), hlocal (by decide), hlocal (by decide), hlessEqual, Bool.or_eq_true]
  · rw [hlocal (by decide), hlocal (by decide), hlocal (by decide), hgreaterEqual,
      Bool.or_eq_true]
  · rw [hlocal (by decide), hswapped (by decide), hsides]
  · rw [hlocal (by decide), hswapped (by decide), ← hsymmetric]
  · rw [hlocal (by decide), hlocal (by decide), hnotEqual, Bool.not_eq_true', Bool.not_eq_true]
  · intro hordered
    obtain ⟨o, ho⟩ := Option.ne_none_iff_exists'.1 (mt Value.order?_eq_none_iff.1 hordered)
    have hverdict := existsUnique_verdict o
    rw [← ho] at hverdict
    exact (existsUnique_congr fun op => and_congr_right fun hop => hlocal (hthree hop)).2 hverdict
  · intro hunordered op hop
    rw [hlocal (hthree hop), Value.order?_eq_none_iff.2 hunordered, verdict_none hop]
    exact Bool.false_ne_true

/-- The empty text spells no number, so it is compared with `false` as a text and equals it. A
text that spells a number is compared with a number, and nothing is in order with the number that
is not one. -/
theorem comparisons_coherent_mixed :
    (∃! op, op ∈ [Operator.less, .equal, .greater] ∧ Holds op (.bool false) (.text "")) ∧
    (Holds .less (.text "9") (.number 10.0) ↔ Holds .greater (.number 10.0) (.text "9")) ∧
    ∀ op ∈ [Operator.less, .equal, .greater], ¬ Holds op (.number (0.0 / 0.0)) .null := by
  have hempty : (Value.text "").number? = none := by decide
  have hunordered : (Value.number (0.0 / 0.0)).Unordered .null :=
    ⟨0.0 / 0.0, 0.0, rfl, rfl, .inl (by decide)⟩
  have hblank := comparisons_coherent (a := .bool false) (b := .text "") rfl rfl
  have hnumbers := comparisons_coherent (a := .text "9") (b := .number 10.0) rfl rfl
  have hnan := comparisons_coherent (a := .number (0.0 / 0.0)) (b := .null) rfl rfl
  obtain ⟨-, -, -, -, -, -, hone, -⟩ := hblank
  obtain ⟨-, -, -, hsides, -⟩ := hnumbers
  obtain ⟨-, -, -, -, -, -, -, hnone⟩ := hnan
  refine ⟨hone ?_, hsides, hnone hunordered⟩
  rintro ⟨x, y, -, hy, -⟩
  rw [hempty] at hy
  cases hy

end Machine

end Reckon
