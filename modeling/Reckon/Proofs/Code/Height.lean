/-
# Reckon.Proofs.Code.Height — how deeply code nests

Two kinds of instructions run other code: a selector runs its contents, and a call of a defined
function runs the body. The *height* of code is the number of levels that this can go down. It is
a property of the code and of the functions that are there, no values are looked at: a call counts
whether or not the value of a condition makes it useless.

The height of an instruction is one more than that of the code in it, and the height of code is the
greatest one of its instructions. Code is infinitely high exactly if it reaches a function that
reaches itself. Where there is no such function every call leaves fewer functions that can still be
reached, and selectors get smaller; that is why the height is finite then.
-/
import Mathlib.Data.ENat.Lattice
import Mathlib.Data.Finset.Card
import Mathlib.Order.CompletePartialOrder
import Reckon.Proofs.Evaluation.Locality

namespace Reckon

/-- The code that an instruction runs on the next level. -/
def Instruction.inner? (scope : Scope) : Instruction → Option Code
  | selector body => some body
  | call name _ =>
    match scope.resolve? name with
    | some (.user f) => some f.body
    | _ => none
  | operand _ | operator _ | index => none

/-- Whether the levels of code go down as far as a number says. -/
def Code.nests (scope : Scope) : Nat → Code → Bool
  | 0, _ => true
  | n + 1, code => code.any fun i => (i.inner? scope).any (nests scope n)

/-- The number of levels below code. -/
noncomputable def Code.height (scope : Scope) (code : Code) : ℕ∞ :=
  ⨆ n ∈ {n | code.nests scope n = true}, (n : ℕ∞)

/-- The number of levels below an instruction. -/
noncomputable def Instruction.height (scope : Scope) (i : Instruction) : ℕ∞ :=
  match i.inner? scope with
  | some body => 1 + body.height scope
  | none => 0

variable {scope : Scope}

/-! ## Levels -/

/-- A function that its own body reaches. -/
def Scope.Recursive (scope : Scope) (name : String) : Prop :=
  ∃ f, scope.resolve? name = some (.user f) ∧ f.body.Reaches scope name

/-! ## Levels, one by one -/

theorem Instruction.inner?_call {name : String} {count : Nat} {body : Code} :
    (call name count).inner? scope = some body ↔
      ∃ f, scope.resolve? name = some (.user f) ∧ f.body = body := by
  rw [inner?]
  rcases scope.resolve? name with _ | callee
  · simp
  · cases callee <;> simp

namespace Code

theorem nests_succ_iff {n : Nat} {code : Code} :
    code.nests scope (n + 1) = true ↔
      ∃ i ∈ code, ∃ body, i.inner? scope = some body ∧ body.nests scope n = true := by
  simp only [nests, List.any_eq_true, Option.any_eq_true]

theorem nests_of_nests_succ {n : Nat} {code : Code} (h : code.nests scope (n + 1) = true) :
    code.nests scope n = true := by
  induction n generalizing code with
  | zero => rfl
  | succ n ih =>
      obtain ⟨i, hi, body, hbody, h⟩ := nests_succ_iff.1 h
      exact nests_succ_iff.2 ⟨i, hi, body, hbody, ih h⟩

theorem nests_of_le {n m : Nat} {code : Code} (hle : n ≤ m) (h : code.nests scope m = true) :
    code.nests scope n = true :=
  Nat.decreasingInduction (fun _ _ => nests_of_nests_succ) h hle

/-- The height is at least `n` exactly if the levels go down `n` times. -/
theorem natCast_le_height_iff {n : Nat} {code : Code} :
    (n : ℕ∞) ≤ code.height scope ↔ code.nests scope n = true := by
  constructor
  · intro h
    by_contra hnot
    have hbelow : ∀ m, code.nests scope m = true → m < n := fun m hm =>
      not_le.1 fun hle => hnot (nests_of_le hle hm)
    have hpos : 0 < n := hbelow 0 rfl
    -- all depths that are reached are below `n`, so the greatest one is
    have hle : code.height scope ≤ ((n - 1 : ℕ) : ℕ∞) :=
      iSup₂_le fun m hm => Nat.cast_le.2 (Nat.le_sub_one_of_lt (hbelow m hm))
    have hn : n ≤ n - 1 := Nat.cast_le.1 (h.trans hle)
    omega
  · exact fun h => le_iSup₂_of_le n h le_rfl

end Code

theorem Instruction.natCast_succ_le_height_iff {n : Nat} {i : Instruction} :
    ((n + 1 : ℕ) : ℕ∞) ≤ i.height scope ↔
      ∃ body, i.inner? scope = some body ∧ body.nests scope n = true := by
  rw [height]
  cases i.inner? scope with
  | none => simp
  | some body =>
      rw [Nat.cast_add, Nat.cast_one, add_comm, ENat.add_le_add_iff_left ENat.one_ne_top,
        Code.natCast_le_height_iff]
      simp

/-! ## The greatest height of the instructions -/

namespace Code

theorem height_nil : height scope [] = 0 := by
  refine ENat.eq_of_forall_natCast_le_iff fun n => ?_
  rw [natCast_le_height_iff]
  cases n with
  | zero => simp [nests]
  | succ n => simp [nests]

theorem height_cons (i : Instruction) (code : Code) :
    height scope (i :: code) = max (i.height scope) (code.height scope) := by
  refine ENat.eq_of_forall_natCast_le_iff fun n => ?_
  rw [natCast_le_height_iff, le_max_iff, natCast_le_height_iff]
  cases n with
  | zero => simp [nests]
  | succ n =>
      rw [Instruction.natCast_succ_le_height_iff, nests_succ_iff, nests_succ_iff]
      simp only [List.mem_cons, or_and_right, exists_or, exists_eq_left]

theorem height_eq_foldr (code : Code) :
    code.height scope = (code.map (Instruction.height scope)).foldr max 0 := by
  induction code with
  | nil => exact height_nil
  | cons i code ih => rw [height_cons, ih, List.map_cons, List.foldr_cons]

theorem height_append (code rest : Code) :
    height scope (code ++ rest) = max (code.height scope) (rest.height scope) := by
  induction code with
  | nil => rw [List.nil_append, height_nil, max_eq_right zero_le]
  | cons i code ih => rw [List.cons_append, height_cons, height_cons, ih, max_assoc]

theorem height_singleton (i : Instruction) : height scope [i] = i.height scope := by
  rw [height_cons, height_nil, max_eq_left zero_le]

end Code

/-! ## Infinite height -/

mutual

theorem Instruction.height_le_of_mem_parts {j : Instruction} :
    ∀ {i : Instruction}, j ∈ i.parts → j.height scope ≤ i.height scope
  | .selector body, h => by
      rw [Instruction.parts] at h
      rcases List.mem_cons.1 h with rfl | h
      · exact le_rfl
      · exact (Code.height_le_of_mem_parts h).trans le_add_self
  | .operand _, h => (List.mem_singleton.1 h) ▸ le_rfl
  | .operator _, h => (List.mem_singleton.1 h) ▸ le_rfl
  | .index, h => (List.mem_singleton.1 h) ▸ le_rfl
  | .call _ _, h => (List.mem_singleton.1 h) ▸ le_rfl

/-- What occurs in code is at most as high as the code. -/
theorem Code.height_le_of_mem_parts {j : Instruction} :
    ∀ {code : Code}, j ∈ Code.parts code → j.height scope ≤ code.height scope
  | [], h => nomatch h
  | i :: code, h => by
      rw [Code.height_cons]
      rw [Code.parts] at h
      rcases List.mem_append.1 h with h | h
      · exact (Instruction.height_le_of_mem_parts h).trans (le_max_left _ _)
      · exact (Code.height_le_of_mem_parts h).trans (le_max_right _ _)

end

mutual

theorem Instruction.height_ne_top (scope : Scope) :
    ∀ i : Instruction, (∀ name count f, .call name count ∈ i.parts →
      scope.resolve? name = some (.user f) → f.body.height scope ≠ ⊤) → i.height scope ≠ ⊤
  | .selector body, h => by
      have hbody : Code.height scope body ≠ ⊤ := Code.height_ne_top scope body
        fun name count f hmem => h name count f (List.mem_cons_of_mem _ hmem)
      exact WithTop.add_ne_top.2 ⟨ENat.one_ne_top, hbody⟩
  | .call name count, h => by
      rw [Instruction.height]
      split
      · rename_i body hbody
        obtain ⟨f, hf, rfl⟩ := Instruction.inner?_call.1 hbody
        exact WithTop.add_ne_top.2 ⟨ENat.one_ne_top, h name count f (List.mem_singleton.2 rfl) hf⟩
      · exact ENat.zero_ne_top
  | .operand _, _ => ENat.zero_ne_top
  | .operator _, _ => ENat.zero_ne_top
  | .index, _ => ENat.zero_ne_top

/-- Code is of finite height if the bodies of all functions that it calls are. -/
theorem Code.height_ne_top (scope : Scope) :
    ∀ code : Code, (∀ name count f, .call name count ∈ Code.parts code →
      scope.resolve? name = some (.user f) → f.body.height scope ≠ ⊤) → code.height scope ≠ ⊤
  | [], _ => by
      rw [Code.height_nil]
      exact ENat.zero_ne_top
  | i :: code, h => by
      rw [Code.height_cons]
      have hfirst := Instruction.height_ne_top scope i
        fun name count f hmem => h name count f (List.mem_append_left _ hmem)
      have hrest := Code.height_ne_top scope code
        fun name count f hmem => h name count f (List.mem_append_right _ hmem)
      exact (max_lt hfirst.lt_top hrest.lt_top).ne

end

namespace Code

/-- The body of a function that code reaches is lower than the code. -/
theorem Reaches.height_le {code : Code} {name : String} (h : code.Reaches scope name)
    {f : UserFunction} (hf : scope.resolve? name = some (.user f)) :
    1 + f.body.height scope ≤ code.height scope := by
  have hcall : ∀ {code : Code} {name : String} {f : UserFunction}, code.Calls name →
      scope.resolve? name = some (.user f) → 1 + f.body.height scope ≤ code.height scope := by
    rintro code name f ⟨count, hmem⟩ hf
    have hheight : Instruction.height scope (.call name count) = 1 + f.body.height scope := by
      rw [Instruction.height, Instruction.inner?_call.2 ⟨f, hf, rfl⟩]
    rw [← hheight]
    exact height_le_of_mem_parts hmem
  induction h generalizing f with
  | call h => exact hcall h hf
  | body _ hg h ih => exact (hcall h hf).trans (le_add_self.trans (ih hg))

theorem height_eq_top_of_recursive {code : Code} {name : String} (h : code.Reaches scope name)
    (hname : scope.Recursive name) : code.height scope = ⊤ := by
  obtain ⟨f, hf, hreaches⟩ := hname
  have hbody : f.body.height scope = ⊤ := by
    by_contra hne
    -- it would be lower than itself
    have hlt : f.body.height scope < 1 + f.body.height scope := by
      rw [add_comm]
      exact ENat.lt_add_one_iff hne |>.2 le_rfl
    exact absurd (hreaches.height_le hf) (not_le.2 hlt)
  have hle := h.height_le hf
  rw [hbody, add_top] at hle
  exact top_le_iff.1 hle

/-- Code that reaches only functions of a set, none of which reaches itself, is of finite
height. -/
theorem height_ne_top_of_reaches (names : Finset String) {code : Code}
    (hnames : ∀ name f, code.Reaches scope name → scope.resolve? name = some (.user f) →
      name ∈ names)
    (hacyclic : ∀ name, code.Reaches scope name → ¬ scope.Recursive name) :
    code.height scope ≠ ⊤ := by
  induction names using Finset.strongInduction generalizing code with
  | H names ih =>
    refine height_ne_top scope code fun name count f hmem hf => ?_
    have hreaches : code.Reaches scope name := .call ⟨count, hmem⟩
    have hbody : ∀ other, f.body.Reaches scope other → code.Reaches scope other :=
      fun other h => h.of_calls fun _ hcalls => .body hreaches hf hcalls
    -- the body reaches all that the code reaches but the function itself
    refine ih (names.erase name) (Finset.erase_ssubset (hnames name f hreaches hf))
      (fun other g hother hg => ?_) fun other hother => hacyclic other (hbody other hother)
    refine Finset.mem_erase.2 ⟨?_, hnames other g (hbody other hother) hg⟩
    rintro rfl
    exact hacyclic other hreaches ⟨f, hf, hother⟩

/-- Code is infinitely high exactly if it reaches a recursive function. -/
theorem height_eq_top_iff {code : Code} :
    code.height scope = ⊤ ↔ ∃ name, code.Reaches scope name ∧ scope.Recursive name := by
  constructor
  · intro h
    by_contra hnot
    refine height_ne_top_of_reaches (scope.functions.entries.map Prod.fst).toFinset
      (fun name f _ hf => ?_) (fun name hreaches hname => hnot ⟨name, hreaches, hname⟩) h
    obtain ⟨before, after, hlist, -⟩ :=
      List.lookup_eq_some_iff.1 (Scope.functions_of_resolve? hf)
    have hmem : (name, f) ∈ scope.functions.entries := by
      rw [hlist]
      exact List.mem_append_right _ List.mem_cons_self
    exact List.mem_toFinset.2 (List.mem_map_of_mem hmem)
  · rintro ⟨name, hreaches, hname⟩
    exact height_eq_top_of_recursive hreaches hname

end Code

end Reckon
