/-
# Reckon.Proofs.Evaluation.Equality — containers are equal if they are the same tree

The language compares arrays and objects by their canonical texts. These determine the values that
print as them, down to the bits of each finite number, so equality is that of trees
(`Value.looseEq_iff_eq`). A formula that compares two literals compares the trees that they spell,
whatever their white space, their escapes and the order of their members.
-/
import Reckon.Conversion.Formula
import Reckon.Proofs.Evaluation.Run
import Reckon.Proofs.Expression.Evaluation
import Reckon.Proofs.Lexeme.Container

namespace Reckon

open Json (Padded Spells itemsText membersText)
open Text (isBlank)

variable {a b : Value}

/-- Containers are equal exactly if they are the same tree. -/
theorem Value.looseEq_iff_eq (ha : a.isContainer = true) (hb : b.isContainer = true)
    (hwf : a.WellFormed) (hwf' : b.WellFormed) (hfinite : a.HasFiniteNumbers)
    (hfinite' : b.HasFiniteNumbers) : a.looseEq b = true ↔ a = b := by
  have hjson : a.looseEq b = (a.json == b.json) := by
    rw [looseEq, ha, hb, Bool.and_true, if_pos rfl]
  rw [hjson, beq_iff_eq]
  constructor
  · intro h
    exact Json.print_injective hwf hfinite hwf' hfinite' (String.ofList_injective h)
  · rintro rfl
    rfl

/-! ## Comparing literals -/

/-- Two texts with `==` and blanks between them. -/
def equalText (t before after u : List Char) : String :=
  String.ofList (t ++ before ++ '=' :: '=' :: (after ++ u))

variable {t u before after : List Char}

/-- Two literals with `==` between them are three lexemes. -/
theorem scan_equalText (ht : Spells a t) (ha : a.isContainer = true) (hu : Spells b u)
    (hb : b.isContainer = true) (hbefore : ∀ c ∈ before, isBlank c = true)
    (hafter : ∀ c ∈ after, isBlank c = true) :
    Lexeme.scan (equalText t before after u)
      = .ok [.json (String.ofList t), .operator .equal, .json (String.ofList u)] := by
  have hleft := Lexeme.scanFrom_of_spells ht ha (List.forall_mem_nil fun c => isBlank c = true)
    (before ++ '=' :: '=' :: (after ++ u))
  have hoperator : (before ++ '=' :: '=' :: (after ++ u)).dropWhile isBlank
      = '=' :: '=' :: (after ++ u) := by
    rw [List.dropWhile_append_of_pos hbefore]
    rfl
  have hequal : Lexeme.scanOne false '=' ('=' :: (after ++ u))
      = .ok (.operator .equal, after ++ u) := rfl
  have hright := Lexeme.scanFrom_of_spells hu hb hafter []
  rw [List.append_nil, Lexeme.scanFrom_nil] at hright
  rw [Lexeme.scan, equalText, String.toList_ofList, List.append_assoc, ← List.nil_append t, hleft,
    Lexeme.scanFrom_of_scanOne hoperator hequal]
  show ((Lexeme.scanFrom true (after ++ u)).map _).map _ = _
  rw [hright]
  rfl

/-- What two operands with `==` after them evaluate to. -/
theorem Code.evaluate_equal {o o' : Operand} (env : Environment) (limit depth : Nat)
    (frame : Frame) (ho : Machine.loadOutcome env.scope frame env.captures o = .ok a)
    (ho' : Machine.loadOutcome env.scope frame env.captures o' = .ok b) :
    Code.evaluate env limit depth frame [.operand o, .operand o', .operator .equal]
      = (.ok (.bool (a.looseEq b)), env.captures) := by
  have hleft := Machine.load_run env.scope frame o env.captures
  have hright := Machine.load_run env.scope frame o' env.captures
  rw [ho] at hleft
  rw [ho'] at hright
  have hbinary : Operator.equal.isPrefix = false := rfl
  have hcode : [Instruction.operand o, .operand o', .operator .equal]
      = (Expression.binary .equal hbinary (.operand o) (.operand o')).postorder := by
    simp only [Expression.postorder, List.cons_append, List.nil_append]
  rw [Code.evaluate, hcode, Expression.run_postorder]
  simp only [Expression.evaluate]
  rw [Run.run_bind_of_ok hleft, Run.run_bind_of_ok hright]
  rfl

/-- Containers are equal exactly if they are the same tree, and so are literals with `==` between
them exactly if they spell the same tree: the blanks around the operator, and the white space, the
escapes and the order of the members in the literals make no difference. Literals must nest fewer
than 128 levels deep, which is as deep as the reader goes. -/
theorem Value.looseEq_structural (ha : a.isContainer = true) (hb : b.isContainer = true)
    (hwf : a.WellFormed) (hwf' : b.WellFormed) (hfinite : a.HasFiniteNumbers)
    (hfinite' : b.HasFiniteNumbers) :
    (a.looseEq b = true ↔ a = b) ∧
      ∀ t u before after, Spells a t → Spells b u → a.depth < 128 → b.depth < 128 →
        (∀ c ∈ before, isBlank c = true) → (∀ c ∈ after, isBlank c = true) →
        ∀ arity? limit, ∃ code,
          Code.ofFormula arity? limit (equalText t before after u) = .ok code ∧
          ∀ env limit depth frame, ∃ r,
            code.evaluate env limit depth frame = (.ok (.bool r), env.captures) ∧
              (r = true ↔ a = b) := by
  have hequal : a.looseEq b = true ↔ a = b := looseEq_iff_eq ha hb hwf hwf' hfinite hfinite'
  refine ⟨hequal, ?_⟩
  intro t u before after ht hu hdepth hdepth' hbefore hafter arity? limit
  refine ⟨[.operand (.json (String.ofList t)), .operand (.json (String.ofList u)),
    .operator .equal], ?_, ?_⟩
  · rw [Code.ofFormula, scan_equalText ht ha hu hb hbefore hafter]
    rfl
  · intro env limit depth frame
    have hload : ∀ {v cs}, Spells v cs → v.depth < 128 →
        Machine.loadOutcome env.scope frame env.captures (.json (String.ofList cs)) = .ok v := by
      intro v cs hspells hv
      rw [Machine.loadOutcome, String.toList_ofList, hspells.read?_eq (Nat.le_of_lt_succ hv)]
    exact ⟨a.looseEq b, Code.evaluate_equal env limit depth frame (hload ht hdepth)
      (hload hu hdepth'), hequal⟩

/-- An object with two members, a list and nothing. -/
def Value.shelf (x : Float) : Value :=
  .object [("a", .array [.number x, .text "\n"]), ("b", .null)]

namespace Json

/-- The items of a shelf's list, with the line break as a code unit. -/
def scatteredItems (x : Float) : List (Value × Padded) :=
  [(.number x, .bare (print (.number x))),
    (.text "\n", ⟨[' '], ['"', '\\', 'u', '0', '0', '0', 'a', '"'], [], by simp [isSpace]⟩)]

/-- The members of a shelf, the last one first. -/
def scatteredMembers (x : Float) : List ((String × Value) × Padded × Padded) :=
  [(("b", .null), .bare ['"', 'b', '"'], ⟨[' '], ['n', 'u', 'l', 'l'], [' '], by simp [isSpace]⟩),
    (("a", .array [.number x, .text "\n"]), .bare ['"', 'a', '"'],
      .bare ('[' :: itemsText (scatteredItems x) ++ [']']))]

theorem spells_scattered {x : Float} (h : x.isFinite = true) :
    Spells (.shelf x) ('{' :: membersText (scatteredMembers x) ++ ['}']) := by
  have hbreak : SpellsString "\n" ['"', '\\', 'u', '0', '0', '0', 'a', '"'] := by
    refine ⟨['\\', 'u', '0', '0', '0', 'a'], rfl, ?_⟩
    have hunit : readUnit? ['0', '0', '0', 'a'] = some (10, []) := rfl
    exact .escaped (.unit hunit (.inl (by decide))) .nil
  have hname : ∀ c : Char, c ≠ '"' → c ≠ '\\' → 0x20 ≤ c.toNat →
      SpellsString (String.ofList [c]) ['"', c, '"'] := by
    intro c hquote hbackslash hcontrol
    refine ⟨[c], rfl, ?_⟩
    rw [String.toList_ofList]
    exact .plain hquote hbackslash hcontrol .nil
  have hitems : ∀ i ∈ scatteredItems x, Spells i.1 i.2.text := by
    simp only [scatteredItems, List.forall_mem_cons]
    exact ⟨spells_print (.number x) (.number x h), .text hbreak, List.forall_mem_nil _⟩
  have hlt : "a" < "b" := by decide
  refine .object (scatteredMembers x) (List.cons_ne_nil _ _) (.swap _ _ _)
    (List.pairwise_pair.2 hlt) ?_ ?_
  · simp only [scatteredMembers, List.forall_mem_cons]
    exact ⟨hname 'b' (by decide) (by decide) (by decide),
      hname 'a' (by decide) (by decide) (by decide), List.forall_mem_nil _⟩
  · simp only [scatteredMembers, List.forall_mem_cons]
    exact ⟨.null, .array _ (List.cons_ne_nil _ _) hitems, List.forall_mem_nil _⟩

end Json

/-- Zeros of different signs are told apart, and another order of the members is not. -/
theorem Value.looseEq_structural_shelf :
    (shelf (-0.0)).looseEq (shelf 0.0) = false ∧
      ∃ code, Code.ofFormula (fun _ => none) 128
          ("\x7b\"a\":[-0.0,\"\\n\"],\"b\":null\x7d == "
            ++ "\x7b\"b\": null ,\"a\":[-0.0, \"\\u000a\"]\x7d") = .ok code ∧
        (code.evaluate {} 128 0 .empty).1 = .ok (.bool true) := by
  have hnegative := Json.spells_scattered (x := -0.0) (by decide)
  have hpositive := Json.spells_scattered (x := 0.0) (by decide)
  have hwf := hnegative.wellFormed
  have hfinite := hnegative.hasFiniteNumbers
  have hsigned := looseEq_structural rfl rfl hwf hpositive.wellFormed hfinite
    hpositive.hasFiniteNumbers
  have hsame := looseEq_structural rfl rfl hwf hwf hfinite hfinite
  obtain ⟨code, hcode, hvalue⟩ := hsame.2 (Json.print (shelf (-0.0)))
    ('{' :: membersText (Json.scatteredMembers (-0.0)) ++ ['}']) [' '] [' ']
    (Json.spells_print hwf hfinite) hnegative (by decide) (by decide)
    (List.forall_mem_singleton.2 rfl) (List.forall_mem_singleton.2 rfl) (fun _ => none) 128
  refine ⟨?_, code, ?_, ?_⟩
  · rw [Bool.eq_false_iff]
    intro h
    have hzero := hsigned.1.1 h
    simp only [shelf, object.injEq, List.cons.injEq, Prod.mk.injEq, array.injEq, number.injEq,
      and_true, true_and] at hzero
    exact absurd hzero (by decide)
  · rw [← hcode]
    exact congrArg (Code.ofFormula _ 128) (by decide +kernel)
  · obtain ⟨r, hr, htrue⟩ := hvalue {} 128 0 .empty
    rw [hr, htrue.2 rfl]

end Reckon
