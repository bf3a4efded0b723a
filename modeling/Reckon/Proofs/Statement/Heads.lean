/-
# Reckon.Proofs.Statement.Heads — the heads of assignments and definitions

A head is taken apart from the left. What each of the readers takes is said here once: a name is
a name in the sense of `Text.isName`, and what follows it cannot go on with it. From these come
the names in the head of a statement, and the fact that a text without a head is an expression
as it stands.
-/
import Reckon.Proofs.Text.Stretch
import Reckon.Session.Statement

namespace Reckon.Statement

open Text (isName isNameChar isSmallLetter stop_dropWhile takeWhile_append_of_stop
  dropWhile_append_of_stop)

/-! ## Names -/

/-- A name is split off exactly where a name stands that what follows does not go on with. -/
theorem splitName?_eq_some_iff {cs rest : List Char} {name : String} :
    splitName? cs = some (name, rest) ↔
      isName name.toList = true ∧ cs = name.toList ++ rest ∧
        ∀ c ∈ rest.head?, isNameChar c = false := by
  constructor
  · intro h
    cases cs with
    | nil => cases h
    | cons c cs =>
        rw [splitName?] at h
        split at h
        · rename_i hc
          cases h
          rw [String.toList_ofList]
          refine ⟨?_, ?_, ?_⟩
          · rw [isName, hc, Bool.true_and]
            exact List.all_takeWhile
          · rw [List.cons_append, List.takeWhile_append_dropWhile]
          · exact stop_dropWhile isNameChar cs
        · cases h
  · rintro ⟨hname, rfl, hrest⟩
    obtain ⟨cs, rfl⟩ : ∃ cs, name = String.ofList cs := ⟨name.toList, String.ofList_toList.symm⟩
    rw [String.toList_ofList] at hname ⊢
    cases cs with
    | nil => cases hname
    | cons c cs =>
        rw [isName, Bool.and_eq_true, List.all_eq_true] at hname
        rw [List.cons_append, splitName?, if_pos hname.1, takeWhile_append_of_stop hrest,
          dropWhile_append_of_stop hrest, List.takeWhile_eq_self_iff.2 hname.2,
          List.dropWhile_eq_nil_iff.2 hname.2, List.nil_append]

theorem isName_of_splitName? {cs rest : List Char} {name : String}
    (h : splitName? cs = some (name, rest)) : isName name.toList = true :=
  (splitName?_eq_some_iff.1 h).1

/-! ## Parameters -/

theorem isName_of_splitParameter? {cs rest : List Char} {name : String}
    (h : splitParameter? cs = some (name, rest)) : isName name.toList = true := by
  rw [splitParameter?] at h
  split at h
  · exact isName_of_splitName? h
  · cases h

theorem isName_of_mem_splitParameters (cs : List Char) :
    ∀ p ∈ (splitParameters cs).1, isName p.toList = true := by
  fun_induction splitParameters cs with
  | case1 cs h =>
      intro p hp
      cases hp
  | case2 cs name rest h names rest' hrest ih =>
      intro p hp
      rcases List.mem_cons.1 hp with rfl | hp
      · exact isName_of_splitParameter? h
      · rw [hrest] at ih
        exact ih p hp

theorem isName_of_mem_splitParameterList (cs : List Char) :
    ∀ p ∈ (splitParameterList cs).1, isName p.toList = true := by
  rw [splitParameterList]
  split
  · intro p hp
    cases hp
  · rename_i name rest h
    intro p hp
    rcases List.mem_cons.1 hp with rfl | hp
    · exact isName_of_splitName? h
    · exact isName_of_mem_splitParameters rest p hp

/-! ## Statements -/

/-- The parts of the head of an assignment. -/
theorem assignment?_eq_some_iff {cs : List Char} {statement : Statement} :
    assignment? cs = some statement ↔
      ∃ name rest body, splitName? (skipSpaces cs) = some (name, rest) ∧
        splitEquals? (skipSpaces rest) = some body ∧
        statement = .assignment name (String.ofList body) := by
  rw [assignment?]
  constructor
  · intro h
    obtain ⟨⟨name, rest⟩, hname, h⟩ := Option.bind_eq_some_iff.1 h
    obtain ⟨body, hbody, h⟩ := Option.bind_eq_some_iff.1 h
    exact ⟨name, rest, body, hname, hbody, (Option.some.inj h).symm⟩
  · rintro ⟨name, rest, body, hname, hbody, rfl⟩
    refine Option.bind_eq_some_iff.2 ⟨(name, rest), hname, ?_⟩
    exact Option.bind_eq_some_iff.2 ⟨body, hbody, rfl⟩

/-- The parts of the head of a definition. -/
theorem definition?_eq_some_iff {cs : List Char} {statement : Statement} :
    definition? cs = some statement ↔
      ∃ name afterName inner afterList body, splitName? (skipSpaces cs) = some (name, afterName) ∧
        skipSpaces afterName = '(' :: inner ∧
        skipSpaces (splitParameterList (skipSpaces inner)).2 = ')' :: afterList ∧
        splitEquals? (skipSpaces afterList) = some body ∧
        statement = .definition name (splitParameterList (skipSpaces inner)).1
          (String.ofList body) := by
  rw [definition?]
  constructor
  · intro h
    obtain ⟨⟨name, afterName⟩, hname, h⟩ := Option.bind_eq_some_iff.1 h
    dsimp only at h
    split at h
    · rename_i inner hopen
      split at h
      · rename_i afterList hclose
        obtain ⟨body, hbody, h⟩ := Option.bind_eq_some_iff.1 h
        exact ⟨name, afterName, inner, afterList, body, hname, hopen, hclose, hbody,
          (Option.some.inj h).symm⟩
      · cases h
    · cases h
  · rintro ⟨name, afterName, inner, afterList, body, hname, hopen, hclose, hbody, rfl⟩
    refine Option.bind_eq_some_iff.2 ⟨(name, afterName), hname, ?_⟩
    simp only [hopen, hclose]
    exact Option.bind_eq_some_iff.2 ⟨body, hbody, rfl⟩

/-- A text is an assignment if it has the head of one, and not that of a definition. -/
theorem classify_eq_assignment {cs : List Char} {name body : String}
    (h : classify cs = .assignment name body) :
    assignment? cs = some (.assignment name body) := by
  rw [classify] at h
  split at h
  · rename_i statement hdef
    obtain ⟨_, _, _, _, _, -, -, -, -, rfl⟩ := definition?_eq_some_iff.1 hdef
    cases h
  · split at h
    · rename_i statement hassign
      rw [hassign, h]
    · cases h

theorem classify_eq_definition {cs : List Char} {name body : String} {parameters : List String}
    (h : classify cs = .definition name parameters body) :
    definition? cs = some (.definition name parameters body) := by
  rw [classify] at h
  split at h
  · rename_i statement hdef
    rw [hdef, h]
  · split at h
    · rename_i statement hassign
      obtain ⟨_, _, _, -, -, rfl⟩ := assignment?_eq_some_iff.1 hassign
      cases h
    · cases h

/-- An expression is the text as a whole. -/
theorem classify_eq_expression_iff {cs : List Char} {source : String} :
    classify cs = .expression source ↔
      definition? cs = none ∧ assignment? cs = none ∧ source = String.ofList cs := by
  rw [classify]
  constructor
  · intro h
    split at h
    · rename_i statement hdef
      obtain ⟨_, _, _, _, _, -, -, -, -, rfl⟩ := definition?_eq_some_iff.1 hdef
      cases h
    · rename_i hdef
      split at h
      · rename_i statement hassign
        obtain ⟨_, _, _, -, -, rfl⟩ := assignment?_eq_some_iff.1 hassign
        cases h
      · rename_i hassign
        cases h
        exact ⟨hdef, hassign, rfl⟩
  · rintro ⟨hdef, hassign, rfl⟩
    rw [hdef, hassign]

/-- What is assigned to has a name. -/
theorem isName_of_classify_assignment {cs : List Char} {name body : String}
    (h : classify cs = .assignment name body) : isName name.toList = true := by
  obtain ⟨_, rest, _, hname, -, heq⟩ := assignment?_eq_some_iff.1 (classify_eq_assignment h)
  cases heq
  exact isName_of_splitName? hname

/-- What is defined has a name, and its parameters have. -/
theorem isName_of_classify_definition {cs : List Char} {name body : String}
    {parameters : List String} (h : classify cs = .definition name parameters body) :
    isName name.toList = true ∧ ∀ p ∈ parameters, isName p.toList = true := by
  obtain ⟨_, _, inner, _, _, hname, -, -, -, heq⟩ :=
    definition?_eq_some_iff.1 (classify_eq_definition h)
  cases heq
  exact ⟨isName_of_splitName? hname, isName_of_mem_splitParameterList _⟩

end Reckon.Statement
