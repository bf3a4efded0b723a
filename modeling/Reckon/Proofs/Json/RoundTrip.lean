/-
# Reckon.Proofs.Json.RoundTrip — values read back from their canonical text

The text that a value prints as is one of those that spell it (`spells_print`), as long as its
numbers are finite and its members stand in the order of their names. So the reader of JSON gives
the value back, and two values that print alike are the same.
-/
import Reckon.Proofs.Json.Reading

namespace Reckon.Json

open Number.Numeral (Ends)

variable {v : Value}

/-! ## Strings -/

theorem hexValue?_hexDigit : ∀ n < 16, hexValue? (hexDigit n) = some n := by
  decide

/-- The escape of a control spells this control. -/
theorem spellsEscape_unit {c : Char} (h : c.toNat < 0x20) :
    SpellsEscape c ['u', '0', '0', hexDigit (c.toNat / 16), hexDigit (c.toNat % 16)] := by
  have hzero : hexValue? '0' = some 0 := rfl
  have hunit : readUnit? ['0', '0', hexDigit (c.toNat / 16), hexDigit (c.toNat % 16)]
      = some (c.toNat, []) := by
    simp only [readUnit?, hzero, hexValue?_hexDigit (c.toNat / 16) (by omega),
      hexValue?_hexDigit (c.toNat % 16) (by omega), Option.bind_eq_bind, Option.bind_some]
    congr 2
    omega
  have hspells := SpellsEscape.unit hunit (.inl (by omega))
  rwa [Char.ofNat_toNat] at hspells

/-- A character is spelt by what it is written as. -/
theorem SpellsBody.escapeChar {s cs : List Char} (h : SpellsBody s cs) (c : Char) :
    SpellsBody (c :: s) (escapeChar c ++ cs) := by
  unfold Json.escapeChar
  split
  · exact .escaped (.letter (by decide)) h
  · exact .escaped (.letter (by decide)) h
  · exact .escaped (.letter (by decide)) h
  · exact .escaped (.letter (by decide)) h
  · exact .escaped (.letter (by decide)) h
  · exact .escaped (.letter (by decide)) h
  · exact .escaped (.letter (by decide)) h
  · rename_i hquote hbackslash _ _ _ _ _
    split
    · rename_i hlt
      exact .escaped (spellsEscape_unit hlt) h
    · rename_i hlt
      exact .plain hquote hbackslash (Nat.not_lt.1 hlt) h

theorem spellsString_string (s : String) : SpellsString s (string s) := by
  refine ⟨s.toList.flatMap escapeChar, rfl, ?_⟩
  induction s.toList with
  | nil => exact .nil
  | cons c cs ih => exact ih.escapeChar c

/-! ## Items and members -/

/-- The text of a member. -/
def memberText (m : String × Value) : List Char :=
  string m.1 ++ ':' :: print m.2

theorem printItems_cons_cons (v w : Value) (others : List Value) :
    printItems (v :: w :: others) = print v ++ ',' :: printItems (w :: others) := by
  rw [printItems]
  exact List.cons_ne_nil w others

theorem printMembers_cons_cons (m n : String × Value) (others : List (String × Value)) :
    printMembers (m :: n :: others) = memberText m ++ ',' :: printMembers (n :: others) := by
  rw [printMembers]
  · rfl
  · exact List.cons_ne_nil n others

/-- The items stand with commas between them. -/
theorem printItems_eq (items : List Value) :
    printItems items = [','].intercalate (items.map print) ++ [']'] := by
  induction items with
  | nil => rw [printItems]; rfl
  | cons v others ih =>
      cases others with
      | nil => rw [printItems, List.map_singleton, List.intercalate_singleton]
      | cons w others =>
          rw [printItems_cons_cons, ih]
          simp only [List.map_cons, List.intercalate_cons_cons, List.append_assoc]
          rfl

/-- The members stand with commas between them. -/
theorem printMembers_eq (members : List (String × Value)) :
    printMembers members = [','].intercalate (members.map memberText) ++ ['\x7d'] := by
  induction members with
  | nil => rw [printMembers]; rfl
  | cons m others ih =>
      cases others with
      | nil => rw [printMembers, List.map_singleton, List.intercalate_singleton]; rfl
      | cons n others =>
          rw [printMembers_cons_cons, ih]
          simp only [List.map_cons, List.intercalate_cons_cons, List.append_assoc]
          rfl

/-! ## Values -/

/-- The canonical text of a value spells it. -/
theorem spells_print (hwf : v.WellFormed) (hfinite : v.HasFiniteNumbers) : Spells v (print v) := by
  induction hwf with
  | null => exact .null
  | bool b => cases b <;> exact .bool _
  | number x =>
      cases hfinite with
      | number _ hx =>
          have hread : readNumber? (Number.json x ++ []) = some (x, []) :=
            Number.readNumber?_json hx nofun
          rw [List.append_nil] at hread
          exact .number hx (fun c => Number.isNumeralChar_of_mem_json hx) hread
  | text s => exact .text (spellsString_string s)
  | array items _ ih =>
      cases hfinite with
      | array _ hitems =>
          cases items with
          | nil => exact .emptyArray (List.forall_mem_nil _)
          | cons w others =>
              have hspells := Spells.array ((w :: others).map fun v => (v, .bare (print v)))
                (List.cons_ne_nil _ _) (List.forall_mem_map.2 fun v hv => ih v hv (hitems v hv))
              have hvalues : ((w :: others).map fun v => (v, Padded.bare (print v))).map Prod.fst
                  = w :: others := by simp [Function.comp_def]
              have htext : itemsText ((w :: others).map fun v => (v, .bare (print v)))
                  = [','].intercalate ((w :: others).map print) := by
                simp [itemsText, Function.comp_def]
              rw [hvalues, htext] at hspells
              rw [print, printItems_eq]
              exact hspells
  | object members hsorted _ ih =>
      cases hfinite with
      | object _ hmembers =>
          cases members with
          | nil => exact .emptyObject (List.forall_mem_nil _)
          | cons n others =>
              have htext : membersText ((n :: others).map
                    fun m => (m, .bare (string m.1), .bare (print m.2)))
                  = [','].intercalate ((n :: others).map memberText) := by
                rw [membersText, List.map_map]
                exact congrArg _ (List.map_congr_left fun m _ => by simp [memberText])
              rw [print, printMembers_eq, ← htext]
              refine .object _ (List.cons_ne_nil _ _) (.of_eq ?_) hsorted
                (List.forall_mem_map.2 fun m _ => spellsString_string m.1)
                (List.forall_mem_map.2 fun m hm => ih m hm (hmembers m hm))
              simp [Function.comp_def]

/-- A reader takes a value off the text that starts with it. -/
def Reads (item : List Char → Option (Value × List Char)) (v : Value) : Prop :=
  ∀ rest, Ends rest → item (print v ++ rest) = some (v, rest)

/-- A value is read from the text that it prints as, if the reader may go as deep as it nests. -/
theorem reads_readValue? {depth : Nat} (hwf : v.WellFormed) (hfinite : v.HasFiniteNumbers)
    (hdepth : v.depth ≤ depth) : Reads (readValue? depth) v :=
  (spells_print hwf hfinite).readsAs hdepth

/-- Values that print alike are the same: a reader that may go deep enough for both gives back
each of them. -/
theorem print_injective {w : Value} (hwf : v.WellFormed) (hfinite : v.HasFiniteNumbers)
    (hwf' : w.WellFormed) (hfinite' : w.HasFiniteNumbers) (h : print v = print w) : v = w := by
  have hv := reads_readValue? hwf hfinite (le_max_left v.depth w.depth) [] nofun
  have hw := reads_readValue? hwf' hfinite' (le_max_right v.depth w.depth) [] nofun
  rw [h, hw] at hv
  exact (congrArg Prod.fst (Option.some.inj hv)).symm

end Reckon.Json
