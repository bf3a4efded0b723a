/-
# Reckon.Proofs.Statement.Forms — the forms by which statements are told apart

The readers of heads try a definition first and an assignment next, and take as much of a text as
they can at each turn. Here the same kinds of statements are described by forms that know of no
order and no greed: what stands before the equals sign (`DefinitionHead`, `AssignmentHead`), with a
gap of spaces and tabs wherever one may stand, and that the equals sign starts no comparison and no
match (`Binds`). A text has at most one head, so it is of one kind, and taken apart in one way.
-/
import Reckon.Proofs.Statement.Heads
import Reckon.Session.Basic

namespace Reckon.Statement

open Text (isName isNameChar isSmallLetter dropWhile_eq_self_of_stop)

variable {cs rest gap : List Char} {c : Char} {name : String} {names : List String}

/-! ## Gaps -/

/-- Spaces and tabs, or nothing. -/
def IsGap (cs : List Char) : Prop :=
  ∀ c ∈ cs, isSpace c = true

theorem isSpace_iff : isSpace c = true ↔ c = ' ' ∨ c = '\t' := by
  simp [isSpace]

theorem isGap_nil : IsGap [] := by
  simp [IsGap]

theorem exists_gap (cs : List Char) : ∃ gap, IsGap gap ∧ cs = gap ++ skipSpaces cs :=
  ⟨cs.takeWhile isSpace, fun _ => List.mem_takeWhile_imp, List.takeWhile_append_dropWhile.symm⟩

theorem skipSpaces_append (hgap : IsGap gap) (hrest : ∀ c ∈ rest.head?, isSpace c = false) :
    skipSpaces (gap ++ rest) = rest := by
  rw [skipSpaces, List.dropWhile_append_of_pos hgap]
  exact dropWhile_eq_self_of_stop hrest

theorem skipSpaces_append_cons (hgap : IsGap gap) (hc : isSpace c = false) (cs : List Char) :
    skipSpaces (gap ++ c :: cs) = c :: cs := by
  apply skipSpaces_append hgap
  simpa using hc

/-- A name ends where a gap starts. -/
theorem stop_gap (hgap : IsGap gap) (hc : isNameChar c = false) :
    ∀ d ∈ (gap ++ c :: cs).head?, isNameChar d = false := by
  intro d hd
  cases gap with
  | nil =>
      cases hd
      exact hc
  | cons e gap =>
      cases hd
      rcases isSpace_iff.1 (hgap d (List.mem_cons_self ..)) with rfl | rfl
      · rfl
      · rfl

/-- A name starts where a gap ends. -/
theorem skipSpaces_append_name (hgap : IsGap gap) (hname : isName name.toList = true)
    (cs : List Char) : skipSpaces (gap ++ (name.toList ++ cs)) = name.toList ++ cs := by
  apply skipSpaces_append hgap
  intro c hc
  cases htext : name.toList with
  | nil =>
      rw [htext] at hname
      cases hname
  | cons d ds =>
      rw [htext] at hc hname
      cases hc
      have hsmall : isSmallLetter c = true := by
        rw [isName, Bool.and_eq_true] at hname
        exact hname.1
      rw [← Bool.not_eq_true, isSpace_iff]
      rintro (rfl | rfl)
      · cases hsmall
      · cases hsmall

/-! ## Parameters -/

/-- Parameters after the first one: each has a comma before it, with a gap on either side of the
comma. -/
inductive SpellsParameters : List String → List Char → Prop
  | nil : SpellsParameters [] []
  | cons {before after cs : List Char} {name : String} {names : List String}
      (hbefore : IsGap before) (hafter : IsGap after) (hname : isName name.toList = true)
      (hnames : SpellsParameters names cs) :
      SpellsParameters (name :: names) (before ++ ',' :: (after ++ (name.toList ++ cs)))

/-- A list of parameters, which may be empty. -/
inductive SpellsParameterList : List String → List Char → Prop
  | empty : SpellsParameterList [] []
  | cons {cs : List Char} {name : String} {names : List String}
      (hname : isName name.toList = true) (hnames : SpellsParameters names cs) :
      SpellsParameterList (name :: names) (name.toList ++ cs)

theorem splitParameters_of_none (h : splitParameter? cs = none) :
    splitParameters cs = ([], cs) := by
  rw [splitParameters]
  split
  · rfl
  · simp_all

theorem splitParameters_of_some (h : splitParameter? cs = some (name, rest)) :
    splitParameters cs = (name :: (splitParameters rest).1, (splitParameters rest).2) := by
  rw [splitParameters]
  split
  · simp_all
  · rename_i name' rest' heq
    rw [h] at heq
    cases heq
    rfl

/-- No parameter goes on with the name before it. -/
theorem SpellsParameters.stop (h : SpellsParameters names cs)
    (hrest : ∀ c ∈ rest.head?, isNameChar c = false) :
    ∀ c ∈ (cs ++ rest).head?, isNameChar c = false := by
  cases h with
  | nil => exact hrest
  | cons hbefore _ _ _ =>
      rw [List.append_assoc, List.cons_append]
      exact stop_gap hbefore rfl

/-- Parameters are taken up to a text that starts with none. -/
theorem SpellsParameters.splitParameters_eq (h : SpellsParameters names cs)
    (hrest : ∀ c ∈ rest.head?, isNameChar c = false) (hnone : splitParameter? rest = none) :
    splitParameters (cs ++ rest) = (names, rest) := by
  induction h with
  | nil => exact splitParameters_of_none hnone
  | @cons before after cs name names hbefore hafter hname hnames ih =>
      have hsplit : splitParameter? (before ++ ',' :: (after ++ (name.toList ++ cs)) ++ rest)
          = some (name, cs ++ rest) := by
        rw [List.append_assoc, splitParameter?, List.cons_append, skipSpaces_append_cons hbefore rfl]
        show splitName? (skipSpaces (after ++ (name.toList ++ cs) ++ rest)) = _
        rw [List.append_assoc, List.append_assoc, skipSpaces_append_name hafter hname]
        exact splitName?_eq_some_iff.2 ⟨hname, rfl, hnames.stop hrest⟩
      rw [splitParameters_of_some hsplit, ih]

/-- What is taken as parameters spells them. -/
theorem exists_spells_splitParameters (cs : List Char) :
    ∃ text, SpellsParameters (splitParameters cs).1 text ∧ cs = text ++ (splitParameters cs).2 := by
  fun_induction splitParameters cs with
  | case1 cs h => exact ⟨[], .nil, rfl⟩
  | case2 cs name rest h names rest' hsplit ih =>
      rw [hsplit] at ih
      obtain ⟨text, htext, hrest⟩ := ih
      rw [splitParameter?] at h
      split at h
      · rename_i afterComma hcomma
        obtain ⟨hname, heq, -⟩ := splitName?_eq_some_iff.1 h
        obtain ⟨before, hbefore, hcs⟩ := exists_gap cs
        obtain ⟨after, hafter, hafterComma⟩ := exists_gap afterComma
        refine ⟨_, .cons hbefore hafter hname htext, ?_⟩
        rw [hcs, hcomma, hafterComma, heq, hrest]
        simp only [List.append_assoc, List.cons_append]
      · cases h

/-- A list of parameters is taken up to the parenthesis that closes it, gaps on either side
included. -/
theorem SpellsParameterList.splitParameterList_eq {inside before : List Char}
    (h : SpellsParameterList names cs) (hinside : IsGap inside) (hbefore : IsGap before)
    (rest : List Char) :
    (splitParameterList (skipSpaces (inside ++ (cs ++ (before ++ ')' :: rest))))).1 = names ∧
      skipSpaces (splitParameterList (skipSpaces (inside ++ (cs ++ (before ++ ')' :: rest))))).2
        = ')' :: rest := by
  have hclose := skipSpaces_append_cons hbefore (c := ')') rfl rest
  cases h with
  | empty =>
      -- the gap before the parenthesis goes on with the gap inside
      have hgap : IsGap (inside ++ before) := fun c hc =>
        (List.mem_append.1 hc).elim (hinside c) (hbefore c)
      rw [List.nil_append, ← List.append_assoc, skipSpaces_append_cons hgap rfl]
      exact ⟨rfl, rfl⟩
  | @cons cs name names hname hnames =>
      have hstop : ∀ c ∈ (before ++ ')' :: rest).head?, isNameChar c = false :=
        stop_gap hbefore rfl
      have hnone : splitParameter? (before ++ ')' :: rest) = none := by
        rw [splitParameter?, hclose]
        rfl
      have hsplit : splitName? (name.toList ++ (cs ++ (before ++ ')' :: rest)))
          = some (name, cs ++ (before ++ ')' :: rest)) :=
        splitName?_eq_some_iff.2 ⟨hname, rfl, hnames.stop hstop⟩
      rw [List.append_assoc, skipSpaces_append_name hinside hname, splitParameterList, hsplit]
      simp only [hnames.splitParameters_eq hstop hnone, hclose, and_self]

theorem exists_spells_splitParameterList (cs : List Char) :
    ∃ text, SpellsParameterList (splitParameterList cs).1 text ∧
      cs = text ++ (splitParameterList cs).2 := by
  rw [splitParameterList]
  split
  · exact ⟨[], .empty, rfl⟩
  · rename_i name rest hsplit
    obtain ⟨hname, rfl, -⟩ := splitName?_eq_some_iff.1 hsplit
    obtain ⟨text, htext, hrest⟩ := exists_spells_splitParameters rest
    refine ⟨_, .cons hname htext, ?_⟩
    rw [List.append_assoc, ← hrest]

/-! ## Heads -/

/-- The head of an assignment is `name =`, with gaps around the name. Then comes the rest. -/
inductive AssignmentHead : List Char → String → List Char → Prop
  | intro {before afterName rest : List Char} {name : String} (hbefore : IsGap before)
      (hname : isName name.toList = true) (hafterName : IsGap afterName) :
      AssignmentHead (before ++ (name.toList ++ (afterName ++ '=' :: rest))) name rest

/-- The head of a definition is `name(parameters) =`, with gaps around the name, the parameters and
the parentheses. Then comes the rest. -/
inductive DefinitionHead : List Char → String → List String → List Char → Prop
  | intro {before afterName inside text beforeClose afterClose rest : List Char} {name : String}
      {parameters : List String} (hbefore : IsGap before) (hname : isName name.toList = true)
      (hafterName : IsGap afterName) (hinside : IsGap inside)
      (hparameters : SpellsParameterList parameters text) (hbeforeClose : IsGap beforeClose)
      (hafterClose : IsGap afterClose) :
      DefinitionHead
        (before ++ (name.toList ++ (afterName ++ '(' ::
          (inside ++ (text ++ (beforeClose ++ ')' :: (afterClose ++ '=' :: rest)))))))
        name parameters rest

/-- What follows an equals sign does not make it the start of `==` or `=~`. -/
def Binds (rest : List Char) : Prop :=
  ∀ c ∈ rest.head?, c ≠ '=' ∧ c ≠ '~'

theorem assignmentHead_iff :
    AssignmentHead cs name rest ↔
      ∃ afterName, splitName? (skipSpaces cs) = some (name, afterName) ∧
        skipSpaces afterName = '=' :: rest := by
  constructor
  · rintro ⟨hbefore, hname, hafterName⟩
    refine ⟨_, ?_, skipSpaces_append_cons hafterName rfl rest⟩
    rw [skipSpaces_append_name hbefore hname]
    exact splitName?_eq_some_iff.2 ⟨hname, rfl, stop_gap hafterName rfl⟩
  · rintro ⟨afterName, hsplit, hequal⟩
    obtain ⟨hname, hcs, -⟩ := splitName?_eq_some_iff.1 hsplit
    obtain ⟨before, hbefore, heq⟩ := exists_gap cs
    obtain ⟨gap, hgap, heq'⟩ := exists_gap afterName
    rw [heq, hcs, heq', hequal]
    exact .intro hbefore hname hgap

theorem definitionHead_iff {parameters : List String} :
    DefinitionHead cs name parameters rest ↔
      ∃ afterName inner afterClose, splitName? (skipSpaces cs) = some (name, afterName) ∧
        skipSpaces afterName = '(' :: inner ∧
        (splitParameterList (skipSpaces inner)).1 = parameters ∧
        skipSpaces (splitParameterList (skipSpaces inner)).2 = ')' :: afterClose ∧
        skipSpaces afterClose = '=' :: rest := by
  constructor
  · rintro ⟨hbefore, hname, hafterName, hinside, hparameters, hbeforeClose, hafterClose⟩
    obtain ⟨hlist, hclose⟩ := hparameters.splitParameterList_eq hinside hbeforeClose _
    refine ⟨_, _, _, ?_, skipSpaces_append_cons hafterName rfl _, hlist, hclose,
      skipSpaces_append_cons hafterClose rfl rest⟩
    rw [skipSpaces_append_name hbefore hname]
    exact splitName?_eq_some_iff.2 ⟨hname, rfl, stop_gap hafterName rfl⟩
  · rintro ⟨afterName, inner, afterClose, hsplit, hopen, hlist, hclose, hequal⟩
    obtain ⟨hname, hcs, -⟩ := splitName?_eq_some_iff.1 hsplit
    obtain ⟨text, htext, hinner⟩ := exists_spells_splitParameterList (skipSpaces inner)
    rw [hlist] at htext
    obtain ⟨before, hbefore, heq⟩ := exists_gap cs
    obtain ⟨gap, hgap, heq₁⟩ := exists_gap afterName
    obtain ⟨inside, hinside, heq₂⟩ := exists_gap inner
    obtain ⟨beforeClose, hbeforeClose, heq₃⟩ :=
      exists_gap (splitParameterList (skipSpaces inner)).2
    obtain ⟨gap', hgap', heq₄⟩ := exists_gap afterClose
    have htail : inner = inside ++ (text ++ (beforeClose ++ ')' :: (gap' ++ '=' :: rest))) := by
      rw [← hequal, ← heq₄, ← hclose, ← heq₃, ← hinner]
      exact heq₂
    rw [heq, hcs, heq₁, hopen, htail]
    exact .intro hbefore hname hgap hinside htext hbeforeClose hgap'

/-- The head of an assignment can be taken off in one way. -/
theorem AssignmentHead.unique {name' : String} {rest' : List Char}
    (h : AssignmentHead cs name rest) (h' : AssignmentHead cs name' rest') :
    name = name' ∧ rest = rest' := by
  obtain ⟨_, hsplit, hequal⟩ := assignmentHead_iff.1 h
  obtain ⟨_, hsplit', hequal'⟩ := assignmentHead_iff.1 h'
  cases hsplit.symm.trans hsplit'
  cases hequal.symm.trans hequal'
  exact ⟨rfl, rfl⟩

/-- The head of a definition can be taken off in one way. -/
theorem DefinitionHead.unique {name' : String} {parameters parameters' : List String}
    {rest' : List Char} (h : DefinitionHead cs name parameters rest)
    (h' : DefinitionHead cs name' parameters' rest') :
    name = name' ∧ parameters = parameters' ∧ rest = rest' := by
  obtain ⟨_, _, _, hsplit, hopen, rfl, hclose, hequal⟩ := definitionHead_iff.1 h
  obtain ⟨_, _, _, hsplit', hopen', rfl, hclose', hequal'⟩ := definitionHead_iff.1 h'
  cases hsplit.symm.trans hsplit'
  cases hopen.symm.trans hopen'
  cases hclose.symm.trans hclose'
  cases hequal.symm.trans hequal'
  exact ⟨rfl, rfl, rfl⟩

/-- No text has both heads: after the name comes a parenthesis or an equals sign. -/
theorem DefinitionHead.not_assignmentHead {name' : String} {parameters : List String}
    {rest' : List Char} (h : DefinitionHead cs name parameters rest) :
    ¬ AssignmentHead cs name' rest' := by
  intro h'
  obtain ⟨_, _, _, hsplit, hopen, -⟩ := definitionHead_iff.1 h
  obtain ⟨_, hsplit', hequal⟩ := assignmentHead_iff.1 h'
  cases hsplit.symm.trans hsplit'
  cases hopen.symm.trans hequal

/-! ## Statements -/

theorem splitEquals?_eq_some_iff {body : List Char} :
    splitEquals? cs = some body ↔ ∃ rest, cs = '=' :: rest ∧ Binds rest ∧ body = skipSpaces rest := by
  constructor
  · intro h
    unfold splitEquals? at h
    split at h
    · cases h
    · cases h
    · rename_i rest hequal htilde
      cases h
      refine ⟨rest, rfl, ?_, rfl⟩
      intro c hc
      cases rest with
      | nil => cases hc
      | cons d rest =>
          cases hc
          exact ⟨by rintro rfl; exact hequal rest rfl, by rintro rfl; exact htilde rest rfl⟩
    · cases h
  · rintro ⟨rest, rfl, hbinds, rfl⟩
    cases rest with
    | nil => rfl
    | cons d rest =>
        obtain ⟨hequal, htilde⟩ := hbinds d rfl
        unfold splitEquals?
        split <;> simp_all

theorem definition?_eq_some_iff_head {statement : Statement} :
    definition? cs = some statement ↔
      ∃ name parameters rest, DefinitionHead cs name parameters rest ∧ Binds rest ∧
        statement = .definition name parameters (String.ofList (skipSpaces rest)) := by
  rw [definition?_eq_some_iff]
  constructor
  · rintro ⟨name, afterName, inner, afterClose, body, hsplit, hopen, hclose, hbody, rfl⟩
    obtain ⟨rest, hequal, hbinds, rfl⟩ := splitEquals?_eq_some_iff.1 hbody
    exact ⟨name, _, rest, definitionHead_iff.2 ⟨afterName, inner, afterClose, hsplit, hopen, rfl,
      hclose, hequal⟩, hbinds, rfl⟩
  · rintro ⟨name, _, rest, hhead, hbinds, rfl⟩
    obtain ⟨afterName, inner, afterClose, hsplit, hopen, rfl, hclose, hequal⟩ :=
      definitionHead_iff.1 hhead
    exact ⟨name, afterName, inner, afterClose, _, hsplit, hopen, hclose,
      splitEquals?_eq_some_iff.2 ⟨rest, hequal, hbinds, rfl⟩, rfl⟩

theorem assignment?_eq_some_iff_head {statement : Statement} :
    assignment? cs = some statement ↔
      ∃ name rest, AssignmentHead cs name rest ∧ Binds rest ∧
        statement = .assignment name (String.ofList (skipSpaces rest)) := by
  rw [assignment?_eq_some_iff]
  constructor
  · rintro ⟨name, afterName, body, hsplit, hbody, rfl⟩
    obtain ⟨rest, hequal, hbinds, rfl⟩ := splitEquals?_eq_some_iff.1 hbody
    exact ⟨name, rest, assignmentHead_iff.2 ⟨afterName, hsplit, hequal⟩, hbinds, rfl⟩
  · rintro ⟨name, rest, hhead, hbinds, rfl⟩
    obtain ⟨afterName, hsplit, hequal⟩ := assignmentHead_iff.1 hhead
    exact ⟨name, afterName, _, hsplit, splitEquals?_eq_some_iff.2 ⟨rest, hequal, hbinds, rfl⟩, rfl⟩

/-- The statement that a text is, by the form it has. The body is the rest without the gap that it
starts with. -/
inductive Forms (cs : List Char) : Statement → Prop
  | definition {name : String} {parameters : List String} {rest : List Char}
      (head : DefinitionHead cs name parameters rest) (binds : Binds rest) :
      Forms cs (.definition name parameters (String.ofList (skipSpaces rest)))
  | assignment {name : String} {rest : List Char} (head : AssignmentHead cs name rest)
      (binds : Binds rest) : Forms cs (.assignment name (String.ofList (skipSpaces rest)))
  | expression
      (noDefinition : ∀ name parameters rest, DefinitionHead cs name parameters rest → ¬ Binds rest)
      (noAssignment : ∀ name rest, AssignmentHead cs name rest → ¬ Binds rest) :
      Forms cs (.expression (String.ofList cs))

theorem forms_classify (cs : List Char) : Forms cs (classify cs) := by
  rw [classify]
  split
  · rename_i statement hdefinition
    obtain ⟨_, _, _, hhead, hbinds, rfl⟩ := definition?_eq_some_iff_head.1 hdefinition
    exact .definition hhead hbinds
  · rename_i hdefinition
    split
    · rename_i statement hassignment
      obtain ⟨_, _, hhead, hbinds, rfl⟩ := assignment?_eq_some_iff_head.1 hassignment
      exact .assignment hhead hbinds
    · rename_i hassignment
      apply Forms.expression
      · intro name parameters rest hhead hbinds
        have hsome := definition?_eq_some_iff_head.2 ⟨_, _, _, hhead, hbinds, rfl⟩
        simp [hdefinition] at hsome
      · intro name rest hhead hbinds
        have hsome := assignment?_eq_some_iff_head.2 ⟨_, _, hhead, hbinds, rfl⟩
        simp [hassignment] at hsome

/-- A text has one form. -/
theorem Forms.unique {statement statement' : Statement} (h : Forms cs statement)
    (h' : Forms cs statement') : statement = statement' := by
  cases h with
  | definition hhead hbinds =>
      cases h' with
      | definition hhead' _ =>
          obtain ⟨rfl, rfl, rfl⟩ := hhead.unique hhead'
          rfl
      | assignment hhead' _ => exact absurd hhead' hhead.not_assignmentHead
      | expression hnone _ => exact absurd hbinds (hnone _ _ _ hhead)
  | assignment hhead hbinds =>
      cases h' with
      | definition hhead' _ => exact absurd hhead hhead'.not_assignmentHead
      | assignment hhead' _ =>
          obtain ⟨rfl, rfl⟩ := hhead.unique hhead'
          rfl
      | expression _ hnone => exact absurd hbinds (hnone _ _ hhead)
  | expression hdefinition hassignment =>
      cases h' with
      | definition hhead' hbinds => exact absurd hbinds (hdefinition _ _ _ hhead')
      | assignment hhead' hbinds => exact absurd hbinds (hassignment _ _ hhead')
      | expression _ _ => rfl

theorem classify_eq_iff_forms {statement : Statement} :
    classify cs = statement ↔ Forms cs statement :=
  ⟨fun h => h ▸ forms_classify cs, (forms_classify cs).unique⟩

/-- A comparison or a match with a name or a call before it is an expression. -/
theorem classify_of_not_binds
    (hhead : (∃ name, AssignmentHead cs name rest) ∨
      ∃ name parameters, DefinitionHead cs name parameters rest)
    (hrest : ¬ Binds rest) : classify cs = .expression (String.ofList cs) := by
  apply classify_eq_iff_forms.2
  rcases hhead with ⟨name, hhead⟩ | ⟨name, parameters, hhead⟩
  · refine .expression (fun _ _ _ h => absurd hhead h.not_assignmentHead) fun _ _ h => ?_
    obtain ⟨-, rfl⟩ := hhead.unique h
    exact hrest
  · refine .expression (fun _ _ _ h => ?_) fun _ _ h => absurd h hhead.not_assignmentHead
    obtain ⟨-, -, rfl⟩ := hhead.unique h
    exact hrest

/-- Every text is one statement, and which one is told by its form: a definition or an assignment if
it has the head of one and the equals sign binds, and otherwise an expression, which is the text as
it stands. Heads are taken off in one way, so that comparisons and matches, where the equals sign
does not bind, are expressions. What a session defines, assigns or evaluates are the parts of the
prepared text. -/
theorem classify_exact (cs : List Char) :
    (∀ statement, classify cs = statement ↔ Forms cs statement) ∧
    (∀ name parameters rest, DefinitionHead cs name parameters rest →
      (∀ name' parameters' rest', DefinitionHead cs name' parameters' rest' →
        name = name' ∧ parameters = parameters' ∧ rest = rest') ∧
      (∀ name' rest', ¬ AssignmentHead cs name' rest') ∧
      (¬ Binds rest → classify cs = .expression (String.ofList cs))) ∧
    (∀ name rest, AssignmentHead cs name rest →
      (∀ name' rest', AssignmentHead cs name' rest' → name = name' ∧ rest = rest') ∧
      (¬ Binds rest → classify cs = .expression (String.ofList cs))) ∧
    ∀ (s : Session) (source : String), prepare source.toList = cs → cs ≠ [] →
      (∀ name parameters body, Forms cs (.definition name parameters body) →
        s.runStatement source = s.define name parameters body) ∧
      (∀ name body, Forms cs (.assignment name body) →
        s.runStatement source = s.assign name body) ∧
      (∀ text, Forms cs (.expression text) →
        s.runStatement source = s.evaluateExpression text) := by
  refine ⟨fun _ => classify_eq_iff_forms, ?_, ?_, ?_⟩
  · intro name parameters rest hhead
    exact ⟨fun _ _ _ => hhead.unique, fun _ _ => hhead.not_assignmentHead,
      classify_of_not_binds (.inr ⟨name, parameters, hhead⟩)⟩
  · intro name rest hhead
    exact ⟨fun _ _ => hhead.unique, classify_of_not_binds (.inl ⟨name, hhead⟩)⟩
  · intro s source hprepare hne
    have hnonempty : cs.isEmpty = false := by simpa using hne
    -- the text is not empty, so what is done depends on its kind alone
    refine ⟨?_, ?_, ?_⟩
    · intro name parameters body hforms
      simp [Session.runStatement, hprepare, hnonempty, classify_eq_iff_forms.2 hforms]
    · intro name body hforms
      simp [Session.runStatement, hprepare, hnonempty, classify_eq_iff_forms.2 hforms]
    · intro text hforms
      simp [Session.runStatement, hprepare, hnonempty, classify_eq_iff_forms.2 hforms]

/-- Gaps wherever one may stand, and a comparison as the body. -/
theorem classify_exact_spaced :
    let cs := "f\t( x ,yy ) = x == yy".toList
    DefinitionHead cs "f" ["x", "yy"] " x == yy".toList ∧ Binds " x == yy".toList ∧
      AssignmentHead "f\t== x".toList "f" "= x".toList ∧ ¬ Binds "= x".toList ∧
      classify cs = .definition "f" ["x", "yy"] "x == yy" ∧
      classify "f\t== x".toList = .expression "f\t== x" ∧
      ({} : Session).runStatement " f\t( x ,yy ) =\r\n x == yy;"
        = ({} : Session).define "f" ["x", "yy"] "x == yy" := by
  intro cs
  have hspace : IsGap [' '] := List.forall_mem_singleton.2 rfl
  have htab : IsGap ['\t'] := List.forall_mem_singleton.2 rfl
  have hf : isName "f".toList = true := rfl
  have hx : isName "x".toList = true := rfl
  have hyy : isName "yy".toList = true := rfl
  have hparameters : SpellsParameterList ["x", "yy"] "x ,yy".toList :=
    .cons hx (.cons hspace isGap_nil hyy .nil)
  have hhead : DefinitionHead cs "f" ["x", "yy"] " x == yy".toList :=
    .intro isGap_nil hf htab hspace hparameters hspace hspace
  have hbinds : Binds " x == yy".toList := by
    intro c hc
    cases hc
    decide
  have hcompared : AssignmentHead "f\t== x".toList "f" "= x".toList :=
    .intro isGap_nil hf htab
  have hcomparison : ¬ Binds "= x".toList := fun h => (h '=' rfl).1 rfl
  have hforms : Forms cs (.definition "f" ["x", "yy"] "x == yy") := .definition hhead hbinds
  obtain ⟨hclassify, -, -, hsession⟩ := classify_exact cs
  have hexpression := ((classify_exact "f\t== x".toList).2.2.1 _ _ hcompared).2 hcomparison
  have hprepare : prepare " f\t( x ,yy ) =\r\n x == yy;".toList = cs := by decide
  exact ⟨hhead, hbinds, hcompared, hcomparison, (hclassify _).2 hforms, hexpression,
    (hsession {} _ hprepare (by decide)).1 _ _ _ hforms⟩

end Reckon.Statement
