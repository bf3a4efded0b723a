/-
# Reckon.Table — finite tables from names to values

A *table* binds names to values, each name at most once, and lists them in the order of
their names (character by character, by code point). The order is what listings of
variables and functions show, so it belongs to the type: the entries of a table are sorted
strictly, which makes two tables equal as soon as they bind the same names to the same
values.

The list functions `Entries.insert` and `List.lookup` do the work; they are also used on the
members of an object value, which nests and so cannot carry the proof.
-/

namespace Reckon

/-! ## Sorted lists of entries -/

namespace Entries

variable {α : Type}

/-- The names of the entries rise strictly. -/
def Sorted (entries : List (String × α)) : Prop :=
  entries.Pairwise fun a b => a.1 < b.1

/-- The entries with `name` bound to `value`, in place of any earlier binding of it. -/
def insert (name : String) (value : α) : List (String × α) → List (String × α)
  | [] => [(name, value)]
  | (k, v) :: rest =>
    if name < k then (name, value) :: (k, v) :: rest
    else if name = k then (name, value) :: rest
    else (k, v) :: insert name value rest

/-- Binds the pairs of a list one after the other: of two pairs with one name the later one
stays. -/
def ofList (pairs : List (String × α)) : List (String × α) :=
  pairs.foldl (fun entries (name, value) => insert name value entries) []

theorem fst_mem_insert {name : String} {value : α} {entries : List (String × α)}
    {p : String × α} (h : p ∈ insert name value entries) : p.1 = name ∨ p ∈ entries := by
  induction entries with
  | nil => simp_all [insert]
  | cons e rest ih =>
    obtain ⟨k, v⟩ := e
    rw [insert] at h
    split at h
    · rcases List.mem_cons.1 h with rfl | h
      · exact .inl rfl
      · exact .inr h
    · split at h
      · rcases List.mem_cons.1 h with rfl | h
        · exact .inl rfl
        · exact .inr (List.mem_cons_of_mem _ h)
      · rcases List.mem_cons.1 h with rfl | h
        · exact .inr List.mem_cons_self
        · exact (ih h).imp_right (List.mem_cons_of_mem _)

theorem lookup_cons_of_ne {k other : String} (h : other ≠ k) (v : α)
    (rest : List (String × α)) : ((k, v) :: rest).lookup other = rest.lookup other := by
  rw [List.lookup_cons, beq_eq_false_iff_ne.2 h]

/-- A binding is what its name is looked up as, and no other name is touched. -/
theorem lookup_insert (name : String) (value : α) (entries : List (String × α))
    (other : String) :
    (insert name value entries).lookup other
      = if other = name then some value else entries.lookup other := by
  by_cases h : other = name
  · subst h
    rw [if_pos rfl]
    induction entries with
    | nil => exact List.lookup_cons_self
    | cons e rest ih =>
      obtain ⟨k, v⟩ := e
      rw [insert]
      split
      · exact List.lookup_cons_self
      · split
        · exact List.lookup_cons_self
        · rename_i hk
          rw [lookup_cons_of_ne hk, ih]
  · rw [if_neg h]
    induction entries with
    | nil => exact lookup_cons_of_ne h value []
    | cons e rest ih =>
      obtain ⟨k, v⟩ := e
      rw [insert]
      split
      · exact lookup_cons_of_ne h value _
      · split
        · rename_i hk
          subst hk
          rw [lookup_cons_of_ne h, lookup_cons_of_ne h]
        · rw [List.lookup_cons, List.lookup_cons, ih]

theorem lt_of_not_lt_of_ne {a b : String} (h : ¬ a < b) (hne : a ≠ b) : b < a := by
  have hle : b ≤ a := String.not_lt.1 h
  refine Decidable.byContradiction fun hlt => hne ?_
  exact String.le_antisymm (String.not_lt.1 hlt) hle

theorem Sorted.insert {name : String} {value : α} {entries : List (String × α)}
    (h : Sorted entries) : Sorted (Entries.insert name value entries) := by
  induction entries with
  | nil => simp [Sorted, Entries.insert]
  | cons e rest ih =>
    obtain ⟨k, v⟩ := e
    obtain ⟨hk, hrest⟩ := List.pairwise_cons.1 h
    rw [Entries.insert]
    split
    · rename_i hlt
      refine List.pairwise_cons.2 ⟨fun p hp => ?_, h⟩
      rcases List.mem_cons.1 hp with rfl | hp
      · exact hlt
      · exact String.lt_trans hlt (hk p hp)
    · rename_i hlt
      split
      · rename_i heq
        subst heq
        exact List.pairwise_cons.2 ⟨hk, hrest⟩
      · rename_i hne
        refine List.pairwise_cons.2 ⟨fun p hp => ?_, ih hrest⟩
        rcases fst_mem_insert hp with heq | hp
        · exact heq ▸ lt_of_not_lt_of_ne hlt hne
        · exact hk p hp

end Entries

/-! ## Tables -/

/-- A finite table from names to values, in the order of the names. -/
structure Table (α : Type) where
  entries : List (String × α) := []
  sorted : Entries.Sorted entries := by exact List.Pairwise.nil

namespace Table

variable {α : Type}

/-- The table without entries. -/
def empty : Table α := {}

/-- What a name is bound to. -/
def get? (table : Table α) (name : String) : Option α :=
  table.entries.lookup name

/-- The table with `name` bound to `value`, and everything else as it was. -/
def insert (table : Table α) (name : String) (value : α) : Table α where
  entries := Entries.insert name value table.entries
  sorted := table.sorted.insert

/-- The table of a list of pairs; of two pairs with one name the later one counts. -/
def ofList (pairs : List (String × α)) : Table α :=
  pairs.foldl (fun table (name, value) => table.insert name value) empty

/-- The entries in the order of their names. -/
def toList (table : Table α) : List (String × α) :=
  table.entries

@[simp] theorem get?_empty (name : String) : (empty : Table α).get? name = none :=
  rfl

/-- Binding a name changes what that name is bound to, and nothing else. -/
theorem get?_insert (table : Table α) (name : String) (value : α) (other : String) :
    (table.insert name value).get? other = if other = name then some value else table.get? other :=
  Entries.lookup_insert name value table.entries other

end Table

end Reckon
