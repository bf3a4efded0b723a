/-
# Reckon.Proofs.Session.Freezing — what freezing does to code

Freezing replaces operands by operands, in selectors too. So frozen code is still the code of a
tree, it calls the functions that were called before, and the only names it reads are
parameters.
-/
import Reckon.Proofs.Code.Parts
import Reckon.Proofs.Outcome
import Reckon.Session.Basic

namespace Reckon

open Outcome (Clean raises_ok raises_error bind_eq_ok_iff)

variable {env : Environment} {parameters : List String}

/-! ## Parts -/

theorem Instruction.freeze_selector_iff {body : List Instruction} {j : Instruction} :
    (Instruction.selector body).freeze env parameters = .ok j ↔
      ∃ frozen, Code.freeze env parameters body = .ok frozen ∧ .selector frozen = j := by
  rw [Instruction.freeze, bind_eq_ok_iff]
  constructor
  · rintro ⟨frozen, hfrozen, h⟩
    exact ⟨frozen, hfrozen, Except.ok.inj h⟩
  · rintro ⟨frozen, hfrozen, rfl⟩
    exact ⟨frozen, hfrozen, rfl⟩

theorem Code.freeze_cons_iff {i : Instruction} {rest code : List Instruction} :
    Code.freeze env parameters (i :: rest) = .ok code ↔
      ∃ j frozen, i.freeze env parameters = .ok j ∧
        Code.freeze env parameters rest = .ok frozen ∧ j :: frozen = code := by
  rw [Code.freeze, bind_eq_ok_iff]
  constructor
  · rintro ⟨j, hj, h⟩
    obtain ⟨frozen, hfrozen, h⟩ := bind_eq_ok_iff.1 h
    exact ⟨j, frozen, hj, hfrozen, Except.ok.inj h⟩
  · rintro ⟨j, frozen, hj, hfrozen, rfl⟩
    exact ⟨j, hj, bind_eq_ok_iff.2 ⟨frozen, hfrozen, rfl⟩⟩

/-- An operand reads no other name than its own, and calls nothing. -/
theorem Instruction.parts_operand {o : Operand} {name : String} {i : Instruction}
    (h : o = .identifier name → name ∈ parameters) :
    (.operand (.identifier name) ∈ (Instruction.operand o).parts → name ∈ parameters) ∧
      ∀ count, .call name count ∈ (Instruction.operand o).parts → .call name count ∈ i.parts := by
  constructor
  · intro hmem
    have heq := List.mem_singleton.1 hmem
    apply h
    exact (Instruction.operand.inj heq).symm
  · intro count hmem
    cases List.mem_singleton.1 hmem

mutual

/-- In a frozen instruction no names are read but parameters, and only what was called before
is called. -/
theorem Instruction.parts_of_freeze (name : String) :
    ∀ {i j : Instruction}, i.freeze env parameters = .ok j →
      (.operand (.identifier name) ∈ j.parts → name ∈ parameters) ∧
      ∀ count, .call name count ∈ j.parts → .call name count ∈ i.parts
  | .operand o, j, h => by
      cases o with
      | identifier other =>
          rw [Instruction.freeze] at h
          split at h
          · rename_i hcontains
            cases h
            apply Instruction.parts_operand
            rintro ⟨⟩
            exact List.contains_iff_mem.1 hcontains
          · split at h
            · cases h
              exact Instruction.parts_operand (by simp)
            · cases h
      | _ =>
          cases h
          exact Instruction.parts_operand (by simp)
  | .selector body, j, h => by
      obtain ⟨frozen, hfrozen, rfl⟩ := Instruction.freeze_selector_iff.1 h
      obtain ⟨hreads, hcalls⟩ := Code.parts_of_freeze name hfrozen
      constructor
      · intro hmem
        rcases List.mem_cons.1 hmem with heq | hmem
        · cases heq
        · exact hreads hmem
      · intro count hmem
        rcases List.mem_cons.1 hmem with heq | hmem
        · cases heq
        · exact List.mem_cons_of_mem _ (hcalls count hmem)
  | .operator op, j, h => by
      cases h
      refine ⟨fun hmem => ?_, fun count hmem => hmem⟩
      cases List.mem_singleton.1 hmem
  | .index, j, h => by
      cases h
      refine ⟨fun hmem => ?_, fun count hmem => hmem⟩
      cases List.mem_singleton.1 hmem
  | .call other count, j, h => by
      cases h
      refine ⟨fun hmem => ?_, fun count hmem => hmem⟩
      cases List.mem_singleton.1 hmem

/-- In frozen code no names are read but parameters, and only what was called before is
called. -/
theorem Code.parts_of_freeze (name : String) :
    ∀ {code frozen : List Instruction}, Code.freeze env parameters code = .ok frozen →
      (.operand (.identifier name) ∈ Code.parts frozen → name ∈ parameters) ∧
      ∀ count, .call name count ∈ Code.parts frozen → .call name count ∈ Code.parts code
  | [], _, h => by
      cases h
      refine ⟨fun hmem => ?_, fun count hmem => hmem⟩
      cases hmem
  | i :: rest, _, h => by
      obtain ⟨j, frozen, hj, hfrozen, rfl⟩ := Code.freeze_cons_iff.1 h
      have hfirst := Instruction.parts_of_freeze name hj
      have hrest := Code.parts_of_freeze name hfrozen
      rw [Code.parts, Code.parts]
      constructor
      · intro hmem
        rcases List.mem_append.1 hmem with hmem | hmem
        · exact hfirst.1 hmem
        · exact hrest.1 hmem
      · intro count hmem
        rcases List.mem_append.1 hmem with hmem | hmem
        · exact List.mem_append_left _ (hfirst.2 count hmem)
        · exact List.mem_append_right _ (hrest.2 count hmem)

end

mutual

/-- Freezing fails only where a name has no value. -/
theorem Instruction.freeze_clean : ∀ i : Instruction, Clean (i.freeze env parameters)
  | .operand o => by
      cases o with
      | identifier name =>
          rw [Instruction.freeze]
          split
          · exact raises_ok _
          · split
            · exact raises_ok _
            · exact raises_error rfl
      | _ => exact raises_ok _
  | .selector body => by
      rw [Instruction.freeze]
      exact (Code.freeze_clean body).bind fun _ _ => raises_ok _
  | .operator op => raises_ok _
  | .index => raises_ok _
  | .call name count => raises_ok _

theorem Code.freeze_clean : ∀ code : List Instruction, Clean (Code.freeze env parameters code)
  | [] => raises_ok _
  | i :: rest => by
      rw [Code.freeze]
      apply (Instruction.freeze_clean i).bind
      intro _ _
      exact (Code.freeze_clean rest).bind fun _ _ => raises_ok _

end

/-! ## Trees -/

namespace Code

/-- Freezing code piece by piece. -/
theorem freeze_append {code rest frozen : List Instruction}
    (h : freeze env parameters (code ++ rest) = .ok frozen) :
    ∃ first second, freeze env parameters code = .ok first ∧
      freeze env parameters rest = .ok second ∧ frozen = first ++ second := by
  induction code generalizing frozen with
  | nil => exact ⟨[], frozen, rfl, h, rfl⟩
  | cons i code ih =>
      rw [List.cons_append] at h
      obtain ⟨j, tail, hj, htail, rfl⟩ := freeze_cons_iff.1 h
      obtain ⟨first, second, hfirst, hsecond, rfl⟩ := ih htail
      exact ⟨j :: first, second, freeze_cons_iff.2 ⟨j, first, hj, hfirst, rfl⟩, hsecond, rfl⟩

theorem freeze_singleton {i : Instruction} {frozen : List Instruction}
    (h : freeze env parameters [i] = .ok frozen) :
    ∃ j, i.freeze env parameters = .ok j ∧ frozen = [j] := by
  obtain ⟨j, tail, hj, htail, rfl⟩ := freeze_cons_iff.1 h
  cases htail
  exact ⟨j, hj, rfl⟩

end Code

namespace Expression

theorem freeze_postorderAll {es : List Expression}
    (each : ∀ e ∈ es, ∀ frozen, Code.freeze env parameters e.postorder = .ok frozen →
      ∃ e' : Expression, e'.postorder = frozen) {frozen : List Instruction}
    (h : Code.freeze env parameters (postorderAll es) = .ok frozen) :
    ∃ es' : List Expression, es'.length = es.length ∧ postorderAll es' = frozen := by
  induction es generalizing frozen with
  | nil =>
      cases h
      exact ⟨[], rfl, rfl⟩
  | cons e es ih =>
      obtain ⟨first, second, hfirst, hsecond, rfl⟩ := Code.freeze_append h
      obtain ⟨e', rfl⟩ := each e List.mem_cons_self first hfirst
      obtain ⟨es', hlen, rfl⟩ := ih (fun f hf => each f (List.mem_cons_of_mem _ hf)) hsecond
      exact ⟨e' :: es', congrArg (· + 1) hlen, rfl⟩

/-- Frozen code of a tree is the code of a tree. -/
theorem freeze_postorder {e : Expression} {frozen : List Instruction}
    (h : Code.freeze env parameters e.postorder = .ok frozen) :
    ∃ e' : Expression, e'.postorder = frozen := by
  induction e generalizing frozen with
  | operand o =>
      obtain ⟨j, hj, rfl⟩ := Code.freeze_singleton h
      cases o with
      | identifier name =>
          rw [Instruction.freeze] at hj
          split at hj
          · cases hj
            exact ⟨.operand (.identifier name), rfl⟩
          · split at hj
            · rename_i v _
              cases hj
              exact ⟨.operand (.value v), rfl⟩
            · cases hj
      | _ =>
          cases hj
          exact ⟨.operand _, rfl⟩
  | selector body ih =>
      obtain ⟨j, hj, rfl⟩ := Code.freeze_singleton h
      obtain ⟨inner, hinner, rfl⟩ := Instruction.freeze_selector_iff.1 hj
      obtain ⟨body', rfl⟩ := ih hinner
      exact ⟨.selector body', rfl⟩
  | prefixed op isPrefix e ih =>
      obtain ⟨first, last, hfirst, hlast, rfl⟩ := Code.freeze_append h
      obtain ⟨e', rfl⟩ := ih hfirst
      cases hlast
      exact ⟨.prefixed op isPrefix e', rfl⟩
  | binary op isBinary a b iha ihb =>
      obtain ⟨both, last, hboth, hlast, rfl⟩ := Code.freeze_append h
      obtain ⟨first, second, hfirst, hsecond, rfl⟩ := Code.freeze_append hboth
      obtain ⟨a', rfl⟩ := iha hfirst
      obtain ⟨b', rfl⟩ := ihb hsecond
      cases hlast
      exact ⟨.binary op isBinary a' b', rfl⟩
  | index target key iht ihk =>
      obtain ⟨both, last, hboth, hlast, rfl⟩ := Code.freeze_append h
      obtain ⟨first, second, hfirst, hsecond, rfl⟩ := Code.freeze_append hboth
      obtain ⟨target', rfl⟩ := iht hfirst
      obtain ⟨key', rfl⟩ := ihk hsecond
      cases hlast
      exact ⟨.index target' key', rfl⟩
  | call name args ih =>
      obtain ⟨all, last, hall, hlast, rfl⟩ := Code.freeze_append h
      obtain ⟨args', hlen, rfl⟩ := freeze_postorderAll (fun e he _ => ih e he) hall
      cases hlast
      refine ⟨.call name args', ?_⟩
      rw [postorder, hlen]

end Expression

end Reckon
