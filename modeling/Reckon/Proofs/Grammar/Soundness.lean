/-
# Reckon.Proofs.Grammar.Soundness — what is parsed derives from the grammar

The invariant of a parse says which lexemes have been read and how: those that leave the open
phrases open (`Opens`), and after them those of the complete phrase, which derives from a
nonterminal that is tight enough for the gap of the innermost open phrase (`Fills`). Completing
an open phrase keeps the lexemes and makes the nonterminal looser; that the operators on the
stack bind more and more tightly is what makes the gap wide enough for it. The main statement
is `Phrase.ofLexemes_sound`.
-/
import Reckon.Proofs.Grammar.Parse
import Reckon.Proofs.Outcome

namespace Reckon.Parse

/-! ## The invariant -/

/-- How tight a phrase must be to fill the gap of the innermost open phrase. -/
def gap : List OpenPhrase → Nat
  | [] => 1
  | f :: _ =>
    match f.operator? with
    | some op => min (op.precedence + 1) 5
    | none => 1

/-- Whether lexemes can start what fills the gap of the innermost open phrase: a factor without
a sign before it starts with certain lexemes only. -/
def Admits : List OpenPhrase → List Lexeme → Prop
  | .juxtaposed _ :: _, ts => ts.head?.any Lexeme.startsFactor = true
  | _, _ => True

/-- `Opens arity? depth ts opened`: the lexemes `ts` leave the phrases `opened` open. -/
inductive Opens (arity? : String → Option Nat) (depth : Nat) :
    List Lexeme → List OpenPhrase → Prop
  | nil : Opens arity? depth [] []
  | negation {ts : List Lexeme} {opened : List OpenPhrase} :
      Opens arity? depth ts opened → Admits opened [] →
      Opens arity? depth (ts ++ [.operator .subtract]) (.prefixed .negate rfl :: opened)
  | complement {ts : List Lexeme} {opened : List OpenPhrase} :
      Opens arity? depth ts opened → Admits opened [] →
      Opens arity? depth (ts ++ [.operator .not]) (.prefixed .not rfl :: opened)
  | chain {n : Nonterminal} {op : Operator} {ts us : List Lexeme} {opened : List OpenPhrase}
      {p : Phrase} (isBinary : op.isPrefix = false) :
      op ∈ n.operators → gap opened ≤ n.rank → Opens arity? depth ts opened →
      Derives arity? depth n us p → Admits opened us →
      Opens arity? depth (ts ++ us ++ [.operator op]) (.binary p op isBinary :: opened)
  | raised {ts us : List Lexeme} {opened : List OpenPhrase} {p : Phrase} :
      Opens arity? depth ts opened → Derives arity? depth .indexed us p → Admits opened us →
      Opens arity? depth (ts ++ us ++ [.operator .power]) (.binary p .power rfl :: opened)
  | juxtaposed {ts us : List Lexeme} {opened : List OpenPhrase} {p : Phrase} :
      gap opened ≤ Nonterminal.product.rank → Opens arity? depth ts opened →
      Derives arity? depth .product us p → Admits opened us →
      Opens arity? depth (ts ++ us) (.juxtaposed p :: opened)
  | group {ts : List Lexeme} {opened : List OpenPhrase} :
      Opens arity? depth ts opened → Opens arity? depth (ts ++ [.openParen]) (.group :: opened)
  | call {ts : List Lexeme} {opened : List OpenPhrase} (name : String)
      (parts : List (List Lexeme × Phrase)) :
      Opens arity? depth ts opened →
      (∀ part ∈ parts, Derives arity? depth .logical part.1 part.2) →
      Opens arity? depth (ts ++ .call name :: parts.flatMap fun part => part.1 ++ [.comma])
        (.call name (parts.map Prod.snd).reverse :: opened)

/-- The lexemes `ts` leave the phrases `opened` open, and then make a phrase of the nonterminal
`n` that can stand in the gap. -/
def Fills (arity? : String → Option Nat) (depth : Nat) (ts : List Lexeme)
    (opened : List OpenPhrase) (n : Nonterminal) (p : Phrase) : Prop :=
  gap opened ≤ n.rank ∧ ∃ us vs, ts = us ++ vs ∧ Opens arity? depth us opened ∧
    Derives arity? depth n vs p ∧ Admits opened vs

/-- The lexemes `ts` have been read. -/
def Reads (arity? : String → Option Nat) (depth : Nat) (ts : List Lexeme) (s : Parse) : Prop :=
  match s.focus with
  | none => Opens arity? depth ts s.opened ∧ Admits s.opened []
  | some p => Fills arity? depth ts s.opened .indexed p

theorem gap_of_some {f : OpenPhrase} {op : Operator} (hf : f.operator? = some op)
    (opened : List OpenPhrase) : gap (f :: opened) = min (op.precedence + 1) 5 := by
  rw [gap, hf]

theorem gap_of_none {f : OpenPhrase} (hf : f.operator? = none) (opened : List OpenPhrase) :
    gap (f :: opened) = 1 := by
  rw [gap, hf]

theorem gap_le (opened : List OpenPhrase) : gap opened ≤ 5 := by
  rcases opened with _ | ⟨f, opened⟩
  · decide
  · cases hf : f.operator? with
    | none =>
        rw [gap_of_none hf]
        decide
    | some op =>
        rw [gap_of_some hf]
        exact Nat.min_le_right _ _

theorem admits_of_startsFactor (opened : List OpenPhrase) {t : Lexeme}
    (ht : t.startsFactor = true) (ts : List Lexeme) : Admits opened (t :: ts) := by
  rcases opened with _ | ⟨f, opened⟩
  · trivial
  · cases f with
    | juxtaposed => exact ht
    | _ => trivial

theorem admits_append {opened : List OpenPhrase} {ts : List Lexeme} (h : Admits opened ts)
    (us : List Lexeme) : Admits opened (ts ++ us) := by
  rcases opened with _ | ⟨f, opened⟩
  · trivial
  · cases f with
    | juxtaposed =>
        cases ts with
        | nil => cases h
        | cons t ts => exact h
    | _ => trivial

/-- A lexeme that starts no factor can only stand where any lexeme can. -/
theorem admits_nil {opened : List OpenPhrase} {t : Lexeme} (h : Admits opened [t])
    (ht : t.startsFactor = false) : Admits opened [] := by
  rcases opened with _ | ⟨f, opened⟩
  · trivial
  · cases f with
    | juxtaposed =>
        exact absurd (h : t.startsFactor = true) (Bool.eq_false_iff.1 ht)
    | _ => trivial

variable {arity? : String → Option Nat} {depth : Nat}

theorem Opens.group_inv {ts : List Lexeme} {opened : List OpenPhrase}
    (h : Opens arity? depth ts (.group :: opened)) :
    ∃ us, ts = us ++ [.openParen] ∧ Opens arity? depth us opened := by
  cases h with
  | group h => exact ⟨_, rfl, h⟩

theorem Opens.call_inv {ts : List Lexeme} {opened : List OpenPhrase} {name : String}
    {done : List Phrase} (h : Opens arity? depth ts (.call name done :: opened)) :
    ∃ (us : List Lexeme) (parts : List (List Lexeme × Phrase)),
      ts = us ++ .call name :: (parts.flatMap fun part => part.1 ++ [.comma]) ∧
      done = (parts.map Prod.snd).reverse ∧ Opens arity? depth us opened ∧
      ∀ part ∈ parts, Derives arity? depth .logical part.1 part.2 := by
  cases h with
  | call _ parts hopens hparts => exact ⟨_, parts, rfl, rfl, hopens, hparts⟩

/-! ## Completing keeps the lexemes -/

theorem Fills.loosen {ts : List Lexeme} {opened : List OpenPhrase} {n m : Nonterminal}
    {p : Phrase} (h : Fills arity? depth ts opened n p) (hrank : m.rank ≤ n.rank)
    (hgap : gap opened ≤ m.rank) : Fills arity? depth ts opened m p := by
  obtain ⟨-, us, vs, rfl, hopens, hp, hadmits⟩ := h
  exact ⟨hgap, us, vs, rfl, hopens, hp.loosen hrank, hadmits⟩

/-- What fills the gap of an open operator completes its phrase, and that one fills the next
gap. -/
theorem Fills.close {ts : List Lexeme} {f : OpenPhrase} {opened : List OpenPhrase}
    {n : Nonterminal} {p : Phrase} {op : Operator} (h : Fills arity? depth ts (f :: opened) n p)
    (hf : f.operator? = some op) :
    ∃ m, op.precedence ≤ m.rank ∧ Fills arity? depth ts opened m (f.close p) := by
  obtain ⟨hgap, us, vs, rfl, hopens, hp, hadmits⟩ := h
  rw [gap_of_some hf] at hgap
  cases hopens with
  | negation hopens hnil =>
      cases hf
      refine ⟨.power, by decide, gap_le opened, _, _, List.append_assoc _ _ _, hopens,
        .negation (hp.loosen hgap), ?_⟩
      exact admits_append hnil _
  | complement hopens hnil =>
      cases hf
      refine ⟨.power, by decide, gap_le opened, _, _, List.append_assoc _ _ _, hopens,
        .complement (hp.loosen hgap), ?_⟩
      exact admits_append hnil _
  | @chain m op' ts us' _ left isBinary hop hgap' hopens hleft hadmits' =>
      cases hf
      have hprec := Nonterminal.precedence_of_mem_operators hop
      have hrank := Nonterminal.rank_le_of_mem_operators hop
      have hm : m ≠ .primary := by
        rintro rfl
        cases hop
      have hnext : m.next.rank ≤ n.rank := by
        rw [Nonterminal.rank_next hm, ← hprec]
        omega
      refine ⟨m, Nat.le_of_eq hprec, hgap', ts, us' ++ .operator op :: vs, ?_, hopens,
        .chain isBinary hop hleft (hp.loosen hnext), admits_append hadmits' _⟩
      simp only [List.append_assoc, List.singleton_append]
  | @raised ts us' _ left hopens hleft hadmits' =>
      cases hf
      refine ⟨.power, by decide, gap_le opened, ts, us' ++ .operator .power :: vs, ?_, hopens,
        .raised hleft (hp.loosen hgap), admits_append hadmits' _⟩
      simp only [List.append_assoc, List.singleton_append]
  | @juxtaposed ts us' _ left hgap' hopens hleft hadmits' =>
      cases hf
      exact ⟨.product, by decide, hgap', ts, us' ++ vs, List.append_assoc _ _ _, hopens,
        .juxtaposed hadmits hleft (hp.loosen hgap), admits_append hadmits' _⟩
  | group => cases hf
  | call => cases hf

theorem Fills.reduce {ts : List Lexeme} {opened : List OpenPhrase} {n : Nonterminal}
    {p : Phrase} {least : Nat} (h : Fills arity? depth ts opened n p) (hn : least ≤ n.rank) :
    ∃ m, least ≤ m.rank ∧ Fills arity? depth ts (Parse.reduce least opened p).1 m
      (Parse.reduce least opened p).2 := by
  induction opened generalizing n p with
  | nil => exact ⟨n, hn, h⟩
  | cons f opened ih =>
      cases hf : f.operator? with
      | none =>
          rw [reduce_cons_of_none hf]
          exact ⟨n, hn, h⟩
      | some op =>
          by_cases hop : least ≤ op.precedence
          · rw [reduce_cons_of_le hf hop]
            obtain ⟨m, hm, hclose⟩ := h.close hf
            exact ih hclose (Nat.le_trans hop hm)
          · rw [reduce_cons_of_lt hf (Nat.not_le.1 hop)]
            exact ⟨n, hn, h⟩

/-- After completing, the gap is wide enough for what binds so strongly. -/
theorem gap_reduce {least : Nat} (hleast : 1 ≤ least) (opened : List OpenPhrase) (p : Phrase) :
    gap (reduce least opened p).1 ≤ least := by
  have hfst := reduce_fst least opened p
  rcases h : (reduce least opened p).1 with _ | ⟨f, rest⟩
  · exact hleast
  · cases hf : f.operator? with
    | none =>
        rw [gap_of_none hf]
        exact hleast
    | some op =>
        have := hfst f rest h op hf
        rw [gap_of_some hf]
        omega

/-- Completing what binds as strongly as the operators of a nonterminal gives a phrase of that
nonterminal. -/
theorem Fills.reduce_rank {ts : List Lexeme} {opened : List OpenPhrase} {n : Nonterminal}
    {p : Phrase} (h : Fills arity? depth ts opened .indexed p) (hn : n.rank ≤ 6) :
    Fills arity? depth ts (Parse.reduce n.rank opened p).1 n (Parse.reduce n.rank opened p).2 := by
  obtain ⟨m, hm, hfills⟩ := h.reduce hn
  exact hfills.loosen hm (gap_reduce n.rank_pos opened p)

/-- Completing all operators gives a formula. -/
theorem Fills.reduce_one {ts : List Lexeme} {opened : List OpenPhrase} {p : Phrase}
    (h : Fills arity? depth ts opened .indexed p) :
    Fills arity? depth ts (Parse.reduce 1 opened p).1 .logical (Parse.reduce 1 opened p).2 :=
  h.reduce_rank (n := .logical) (by decide)

/-- After a complete phrase, the innermost open group or call, if there is one, is followed by a
formula. -/
theorem Fills.formula {ts : List Lexeme} {opened rest : List OpenPhrase} {p q : Phrase}
    (h : Fills arity? depth ts opened .indexed p) (hreduce : Parse.reduce 1 opened p = (rest, q)) :
    ∃ us vs, ts = us ++ vs ∧ Opens arity? depth us rest ∧ Derives arity? depth .logical vs q := by
  have hone := h.reduce_one
  rw [hreduce] at hone
  obtain ⟨-, us, vs, hts, hus, hvs, -⟩ := hone
  exact ⟨us, vs, hts, hus, hvs⟩

/-! ## One lexeme -/

/-- The lexemes of the arguments of a call, the last one without a comma after it. -/
theorem intercalate_comma (parts : List (List Lexeme × Phrase)) (last : List Lexeme) :
    (parts.flatMap fun part => part.1 ++ [.comma]) ++ last
      = [Lexeme.comma].intercalate (parts.map Prod.fst ++ [last]) := by
  induction parts with
  | nil => simp [List.intercalate]
  | cons part parts ih =>
      rw [List.flatMap_cons, List.append_assoc, ih, List.map_cons, List.cons_append]
      cases parts <;> simp [List.intercalate]

/-- A primary phrase that starts a factor can follow whatever is open. -/
theorem Reads.of_primary {ts vs : List Lexeme} {opened : List OpenPhrase} {p : Phrase}
    (hopens : Opens arity? depth ts opened) (hp : Derives arity? depth .primary vs p)
    (hadmits : Admits opened vs) : Reads arity? depth (ts ++ vs) ⟨opened, some p⟩ :=
  ⟨Nat.le_trans (gap_le opened) (by decide), ts, vs, rfl, hopens, hp.loosen (by decide), hadmits⟩

/-- A call that is complete has been read up to its closing parenthesis. -/
theorem closeCall_reads (parts : List (List Lexeme × Phrase)) {ts : List Lexeme}
    {opened : List OpenPhrase} {name : String} {s : Parse} (hopens : Opens arity? depth ts opened)
    (hparts : ∀ part ∈ parts, Derives arity? depth .logical part.1 part.2)
    (h : closeCall arity? name (parts.map Prod.snd) opened = .ok s) :
    Reads arity? depth
      (ts ++ (.call name :: [Lexeme.comma].intercalate (parts.map Prod.fst) ++ [.closeParen])) s := by
  unfold closeCall at h
  split at h
  · cases h
  · rename_i expected harity
    split at h
    · rename_i hlen
      cases h
      rw [List.length_map] at hlen
      exact .of_primary hopens (.call parts (hlen ▸ harity) hparts)
        (admits_of_startsFactor opened rfl _)
    · cases h

/-- A name before a parenthesis opens a call, or is the first factor of a product without a sign. -/
theorem stepDue_call_reads {ts : List Lexeme} {opened : List OpenPhrase} {name : String}
    {s : Parse} (hopens : Opens arity? depth ts opened)
    (h : stepDue arity? opened (.call name) = .ok s) :
    Reads arity? depth (ts ++ (Lexeme.call name).reading arity?) s := by
  rw [stepDue] at h
  rw [Lexeme.reading]
  split at h
  · rename_i hsome
    cases h
    rw [if_pos hsome]
    exact ⟨.call name [] hopens (List.forall_mem_nil _), trivial⟩
  · rename_i hnone
    cases h
    rw [if_neg hnone]
    have hname : Fills arity? depth (ts ++ [.identifier name]) opened .indexed
        (.operand (.identifier name)) :=
      Reads.of_primary hopens (.operand rfl) (admits_of_startsFactor opened rfl [])
    obtain ⟨hgap, us, vs, heq, hus, hvs, hadm⟩ := hname.reduce_rank (n := .product) (by decide)
    have hopen := Opens.group (.juxtaposed hgap hus hvs hadm)
    rw [← heq, List.append_assoc] at hopen
    exact ⟨hopen, trivial⟩

/-- A closing parenthesis where an operand is due can only close a call without arguments. -/
theorem stepDue_closeParen_reads {ts : List Lexeme} {opened : List OpenPhrase} {s : Parse}
    (hopens : Opens arity? depth ts opened) (h : stepDue arity? opened .closeParen = .ok s) :
    Reads arity? depth (ts ++ [.closeParen]) s := by
  rw [stepDue.eq_def] at h
  dsimp only at h
  split at h
  · rename_i name opened
    obtain ⟨us, parts, rfl, hparts, hus, -⟩ := hopens.call_inv
    obtain rfl : parts = [] := by simpa using hparts
    have hclose := closeCall_reads [] hus (List.forall_mem_nil _) h
    rw [List.append_assoc]
    exact hclose
  · cases h

theorem stepDue_reads {ts : List Lexeme} {opened : List OpenPhrase} {t : Lexeme} {s : Parse}
    (hopens : Opens arity? depth ts opened) (hadmits : Admits opened [t])
    (h : stepDue arity? opened t = .ok s) :
    Reads arity? depth (ts ++ t.reading arity?) s := by
  cases t with
  | number x =>
      cases h
      exact .of_primary hopens (.operand rfl) hadmits
  | text v =>
      cases h
      exact .of_primary hopens (.operand rfl) hadmits
  | json raw =>
      cases h
      exact .of_primary hopens (.operand rfl) hadmits
  | pattern raw =>
      cases h
      exact .of_primary hopens (.operand rfl) hadmits
  | identifier name =>
      cases h
      exact .of_primary hopens (.operand rfl) hadmits
  | call name => exact stepDue_call_reads hopens h
  | openParen =>
      cases h
      exact ⟨.group hopens, trivial⟩
  | closeParen => exact stepDue_closeParen_reads hopens h
  | comma => cases h
  | operator op =>
      have hnil : Admits opened [] := admits_nil hadmits rfl
      cases op with
      | subtract =>
          cases h
          exact ⟨.negation hopens hnil, trivial⟩
      | not =>
          cases h
          exact ⟨.complement hopens hnil, trivial⟩
      | _ => cases h
  | index raw => cases h

/-- What `selector` gives are the derivation trees of the contents of selectors. -/
def SelectorSound (arity? : String → Option Nat) (depth : Nat)
    (selector : String → Except Fault Phrase) : Prop :=
  ∀ raw p, selector raw = .ok p → ∃ inner ts, depth = inner + 1 ∧ Lexeme.scan raw = .ok ts ∧
    Derives arity? inner .logical (Lexeme.readings arity? ts) p

/-- In an open call, the formula is the argument after those that are done. -/
theorem Fills.argument {ts : List Lexeme} {opened rest : List OpenPhrase} {p q : Phrase}
    {name : String} {done : List Phrase} (h : Fills arity? depth ts opened .indexed p)
    (hreduce : Parse.reduce 1 opened p = (.call name done :: rest, q)) :
    ∃ us vs parts,
      ts = us ++ .call name :: (parts.flatMap fun part => part.1 ++ [.comma]) ++ vs ∧
      (q :: done).reverse = (parts ++ [(vs, q)]).map Prod.snd ∧ Opens arity? depth us rest ∧
      ∀ part ∈ parts ++ [(vs, q)], Derives arity? depth .logical part.1 part.2 := by
  obtain ⟨us, vs, rfl, hus, hvs⟩ := h.formula hreduce
  obtain ⟨us, parts, rfl, rfl, hrest, hparts⟩ := hus.call_inv
  refine ⟨us, vs, parts, rfl, ?_, hrest, ?_⟩
  · rw [List.reverse_cons, List.reverse_reverse, List.map_append]
    rfl
  · exact List.forall_mem_append.2 ⟨hparts, List.forall_mem_singleton.2 hvs⟩

section Steps

variable {selector : String → Except Fault Phrase} {ts : List Lexeme} {opened : List OpenPhrase}
variable {p : Phrase} {s : Parse}

/-- A factor without a sign before it. -/
theorem stepAfter_factor_reads {t : Lexeme} (hfills : Fills arity? depth ts opened .indexed p)
    (ht : t.startsFactor = true)
    (h : stepDue arity? (.juxtaposed (reduce 4 opened p).2 :: (reduce 4 opened p).1) t = .ok s) :
    Reads arity? depth (ts ++ t.reading arity?) s := by
  obtain ⟨hgap, us, vs, rfl, hus, hvs, hadm⟩ := hfills.reduce_rank (n := .product) (by decide)
  exact stepDue_reads (.juxtaposed hgap hus hvs hadm) (admits_of_startsFactor _ ht []) h

theorem stepAfter_closeParen_reads (hfills : Fills arity? depth ts opened .indexed p)
    (h : stepAfter arity? selector opened p .closeParen = .ok s) :
    Reads arity? depth (ts ++ [.closeParen]) s := by
  rw [stepAfter] at h
  split at h
  · rename_i rest q hreduce
    cases h
    obtain ⟨us, vs, rfl, hus, hvs⟩ := hfills.formula hreduce
    obtain ⟨us, rfl, hrest⟩ := hus.group_inv
    have hread := Reads.of_primary hrest (.group hvs) (admits_of_startsFactor rest rfl _)
    rw [List.append_assoc us, List.append_assoc us]
    exact hread
  · rename_i name done rest q hreduce
    obtain ⟨us, vs, parts, rfl, hargs, hrest, hparts⟩ := hfills.argument hreduce
    rw [hargs] at h
    have hread := closeCall_reads (parts ++ [(vs, q)]) hrest hparts h
    rw [List.map_append, List.map_singleton, ← intercalate_comma] at hread
    simp only [List.append_assoc, List.cons_append] at hread ⊢
    exact hread
  · cases h

theorem stepAfter_comma_reads (hfills : Fills arity? depth ts opened .indexed p)
    (h : stepAfter arity? selector opened p .comma = .ok s) :
    Reads arity? depth (ts ++ [.comma]) s := by
  rw [stepAfter] at h
  split at h
  · rename_i name done rest q hreduce
    cases h
    obtain ⟨us, vs, parts, rfl, hargs, hrest, hparts⟩ := hfills.argument hreduce
    have hopen := Opens.call name (parts ++ [(vs, q)]) hrest hparts
    rw [← hargs, List.reverse_reverse, List.flatMap_append, List.flatMap_singleton] at hopen
    simp only [List.append_assoc, List.cons_append] at hopen ⊢
    exact ⟨hopen, trivial⟩
  · cases h

theorem stepAfter_operator_reads {op : Operator}
    (hfills : Fills arity? depth ts opened .indexed p)
    (h : stepAfter arity? selector opened p (.operator op) = .ok s) :
    Reads arity? depth (ts ++ [.operator op]) s := by
  rw [stepAfter] at h
  split at h
  · rename_i isBinary
    cases h
    by_cases hop : op = .power
    · subst hop
      obtain ⟨-, us, vs, rfl, hus, hvs, hadm⟩ := hfills
      rw [reduce_threshold_power]
      exact ⟨.raised hus hvs hadm, trivial⟩
    · obtain ⟨n, hn⟩ := Nonterminal.exists_mem_operators isBinary hop
      rw [threshold_of_mem_operators hn]
      have hrank := Nonterminal.rank_le_of_mem_operators hn
      obtain ⟨hgap, us, vs, rfl, hus, hvs, hadm⟩ := hfills.reduce_rank (n := n) (by omega)
      exact ⟨.chain isBinary hn hgap hus hvs hadm, trivial⟩
  · cases h

theorem stepAfter_index_reads (hselector : SelectorSound arity? depth selector) {raw : String}
    (hfills : Fills arity? depth ts opened .indexed p)
    (h : stepAfter arity? selector opened p (.index raw) = .ok s) :
    Reads arity? depth (ts ++ [.index raw]) s := by
  rw [stepAfter] at h
  split at h
  · cases h
  · split at h
    · rename_i contents hcontents
      cases h
      obtain ⟨inner, us, rfl, hscan, hq⟩ := hselector raw contents hcontents
      obtain ⟨hgap, us', vs, rfl, hus, hvs, hadm⟩ := hfills
      exact ⟨hgap, us', vs ++ [.index raw], List.append_assoc _ _ _, hus,
        .index hvs hscan hq, admits_append hadm _⟩
    · cases h

theorem stepAfter_reads (hselector : SelectorSound arity? depth selector) {t : Lexeme}
    (hfills : Fills arity? depth ts opened .indexed p)
    (h : stepAfter arity? selector opened p t = .ok s) :
    Reads arity? depth (ts ++ t.reading arity?) s := by
  cases t with
  | number x => exact stepAfter_factor_reads hfills rfl h
  | identifier name => exact stepAfter_factor_reads hfills rfl h
  | call name => exact stepAfter_factor_reads hfills rfl h
  | openParen => exact stepAfter_factor_reads hfills rfl h
  | text v => cases h
  | json raw => cases h
  | pattern raw => cases h
  | closeParen => exact stepAfter_closeParen_reads hfills h
  | comma => exact stepAfter_comma_reads hfills h
  | operator op => exact stepAfter_operator_reads hfills h
  | index raw => exact stepAfter_index_reads hselector hfills h

end Steps

/-! ## Whole formulas -/

theorem step_reads {selector : String → Except Fault Phrase}
    (hselector : SelectorSound arity? depth selector) {ts : List Lexeme} {s s' : Parse}
    {t : Lexeme} (hs : Reads arity? depth ts s) (h : step arity? selector s t = .ok s') :
    Reads arity? depth (ts ++ t.reading arity?) s' := by
  obtain ⟨opened, _ | p⟩ := s
  · obtain ⟨hopens, hnil⟩ := hs
    refine stepDue_reads hopens ?_ h
    -- where any lexeme can stand, this one can
    rcases opened with _ | ⟨f, opened⟩
    · trivial
    · cases f with
      | juxtaposed => cases hnil
      | _ => trivial
  · exact stepAfter_reads hselector hs h

theorem foldlM_step_reads {selector : String → Except Fault Phrase}
    (hselector : SelectorSound arity? depth selector) {ts us : List Lexeme} {s s' : Parse}
    (hs : Reads arity? depth ts s) (h : us.foldlM (step arity? selector) s = .ok s') :
    Reads arity? depth (ts ++ Lexeme.readings arity? us) s' := by
  induction us generalizing ts s with
  | nil =>
      cases h
      rw [Lexeme.readings, List.flatMap_nil, List.append_nil]
      exact hs
  | cons t us ih =>
      rw [List.foldlM_cons] at h
      obtain ⟨mid, hmid, hrest⟩ := Outcome.bind_eq_ok_iff.1 h
      have hread := ih (step_reads hselector hs hmid) hrest
      rw [List.append_assoc] at hread
      exact hread

theorem finish_reads {ts : List Lexeme} {s : Parse} {p : Phrase}
    (hs : Reads arity? depth ts s) (h : s.finish = .ok p) :
    Derives arity? depth .logical ts p := by
  obtain ⟨opened, _ | q⟩ := s
  · cases h
  · rw [finish] at h
    dsimp only at h
    rcases hreduce : reduce 1 opened q with ⟨_ | ⟨f, rest⟩, r⟩
    · obtain ⟨us, vs, rfl, hus, hvs⟩ := Fills.formula hs hreduce
      rw [hreduce] at h
      cases h
      cases hus
      exact hvs
    · rw [hreduce] at h
      cases h

end Reckon.Parse

namespace Reckon.Phrase

variable {arity? : String → Option Nat}

/-- What is parsed derives from the grammar. -/
theorem ofLexemes_sound {depth : Nat} {selector : String → Except Fault Phrase}
    (hselector : Parse.SelectorSound arity? depth selector) {ts : List Lexeme} {p : Phrase}
    (h : ofLexemes arity? selector ts = .ok p) :
    Derives arity? depth .logical (Lexeme.readings arity? ts) p := by
  unfold ofLexemes at h
  split at h
  · cases h
  · obtain ⟨s, hs, hfinish⟩ := Outcome.bind_eq_ok_iff.1 h
    have hstart : Parse.Reads arity? depth [] {} := ⟨.nil, trivial⟩
    have hread := Parse.foldlM_step_reads hselector hstart hs
    exact Parse.finish_reads hread hfinish

theorem selectorSound_ofSelector (limit depth : Nat) :
    Parse.SelectorSound arity? depth (ofSelector arity? limit depth) := by
  induction depth with
  | zero =>
      intro raw p h
      cases h
  | succ depth ih =>
      intro raw p h
      rw [ofSelector] at h
      obtain ⟨ts, hts, hp⟩ := Outcome.bind_eq_ok_iff.1 h
      exact ⟨depth, ts, rfl, hts, ofLexemes_sound ih hp⟩

end Reckon.Phrase
