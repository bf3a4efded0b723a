/-
# Reckon.Proofs.Grammar.Completeness — what derives from the grammar is parsed

The lexemes of a phrase, taken one at a time, leave the parse with that phrase complete; not at
once, since what could still take part in a tighter operator stays open, but as soon as what
comes next completes it. `Parses` says so for any open phrases whose gap the phrase can fill,
and holds of every derivation, by induction over it (`Derives.parses`).

A parse has at most one outcome, so a formula has at most one derivation tree (`Derives.unique`).
-/
import Reckon.Proofs.Grammar.Soundness
import Reckon.Proofs.Lexeme.Append

namespace Reckon.Parse

/-- What binds more tightly than the gap is wide is complete at once. -/
theorem reduce_of_gap {opened : List OpenPhrase} {least : Nat} (h : gap opened ≤ least)
    (hleast : least ≤ 4) (p : Phrase) : reduce least opened p = (opened, p) := by
  rcases opened with _ | ⟨f, opened⟩
  · rfl
  · cases hf : f.operator? with
    | none => exact reduce_cons_of_none hf
    | some op =>
        rw [gap_of_some hf] at h
        apply reduce_cons_of_lt hf
        omega

/-- `selector` gives the derivation trees of the contents of selectors. -/
def SelectorComplete (arity? : String → Option Nat) (depth : Nat)
    (selector : String → Except Fault Phrase) : Prop :=
  ∀ inner raw ts p, depth = inner + 1 → Lexeme.scan raw = .ok ts →
    Derives arity? inner .logical (Lexeme.readings arity? ts) p → selector raw = .ok p

/-- The lexemes `ts`, taken one at a time where the nonterminal `n` can stand, make the phrase
`p`: completing the operators that bind less strongly than `n` gives the same as if `p` had been
complete from the start. From what binds more tightly than all operators no part stays open. -/
def Parses (arity? : String → Option Nat) (selector : String → Except Fault Phrase)
    (n : Nonterminal) (ts : List Lexeme) (p : Phrase) : Prop :=
  ∀ opened, gap opened ≤ n.rank → ∃ opened' q,
    ts.foldlM (step arity? selector) ⟨opened, none⟩ = .ok ⟨opened', some q⟩ ∧
    (∀ least, least ≤ n.rank → least ≤ 4 → reduce least opened' q = reduce least opened p) ∧
    (6 ≤ n.rank → opened' = opened ∧ q = p)

variable {arity? : String → Option Nat} {selector : String → Except Fault Phrase}

/-- Lexemes after others are taken from where those leave the parse. -/
theorem foldlM_append_of_ok {ts us : List Lexeme} {s s' : Parse}
    (h : ts.foldlM (step arity? selector) s = .ok s') :
    (ts ++ us).foldlM (step arity? selector) s = us.foldlM (step arity? selector) s' := by
  rw [List.foldlM_append, h]
  rfl

theorem foldlM_cons_of_ok {t : Lexeme} {ts : List Lexeme} {s s' : Parse}
    (h : step arity? selector s t = .ok s') :
    (t :: ts).foldlM (step arity? selector) s = ts.foldlM (step arity? selector) s' := by
  rw [List.foldlM_cons, h]
  rfl

/-! ## Operators -/

theorem step_operator_after {op : Operator} (isBinary : op.isPrefix = false)
    (opened : List OpenPhrase) (p : Phrase) :
    step arity? selector ⟨opened, some p⟩ (.operator op)
      = .ok ⟨.binary (reduce (threshold op) opened p).2 op isBinary
          :: (reduce (threshold op) opened p).1, none⟩ := by
  show stepAfter arity? selector opened p (.operator op) = _
  rw [stepAfter, dif_pos isBinary]

/-- A lexeme that starts a factor, after a complete phrase, is taken as after a product without
a sign. -/
theorem step_factor_after {t : Lexeme} (ht : t.startsFactor = true) (opened : List OpenPhrase)
    (p : Phrase) :
    step arity? selector ⟨opened, some p⟩ t
      = step arity? selector
          ⟨.juxtaposed (reduce 4 opened p).2 :: (reduce 4 opened p).1, none⟩ t := by
  cases t with
  | number x => rfl
  | identifier name => rfl
  | call name => rfl
  | openParen => rfl
  | text v => cases ht
  | json raw => cases ht
  | pattern raw => cases ht
  | operator op => cases ht
  | closeParen => cases ht
  | comma => cases ht
  | index raw => cases ht

/-- What completes the last part of an open operator completes its phrase. -/
theorem Parses.close {n m : Nonterminal} {f : OpenPhrase} {op : Operator} {ts us : List Lexeme}
    {p : Phrase} {opened : List OpenPhrase} {s : Parse} (hf : f.operator? = some op)
    (hgap : min (op.precedence + 1) 5 ≤ m.rank) (hn : n.rank ≤ 5)
    (hop : min n.rank 4 ≤ op.precedence) (hp : Parses arity? selector m us p)
    (hs : ts.foldlM (step arity? selector) s = us.foldlM (step arity? selector)
      ⟨f :: opened, none⟩) :
    ∃ opened' q, ts.foldlM (step arity? selector) s = .ok ⟨opened', some q⟩ ∧
      (∀ least, least ≤ n.rank → least ≤ 4 →
        reduce least opened' q = reduce least opened (f.close p)) ∧
      (6 ≤ n.rank → opened' = opened ∧ q = f.close p) := by
  obtain ⟨opened', q, hfold, hreduce, -⟩ := hp (f :: opened) (by rwa [gap_of_some hf])
  refine ⟨opened', q, hs.trans hfold, ?_, fun h => absurd h (by omega)⟩
  intro least hleast hfour
  -- what completes the phrase completes the open operator first
  have hle : least ≤ op.precedence := by omega
  have hrank : least ≤ m.rank := by omega
  rw [hreduce least hrank hfour, reduce_cons_of_le hf hle]

theorem Parses.single {n : Nonterminal} {ts : List Lexeme} {p : Phrase} (hn : n ≠ .primary)
    (h : Parses arity? selector n.next ts p) : Parses arity? selector n ts p := by
  have hrank := Nonterminal.rank_next hn
  intro opened hgap
  obtain ⟨opened', q, hfold, hreduce, hsame⟩ := h opened (by omega)
  refine ⟨opened', q, hfold, ?_, fun h => hsame (by omega)⟩
  intro least hleast hfour
  exact hreduce least (by omega) hfour

/-! ### What comes after the left part

An operator completes the phrase before it and waits for its right part; a factor does so without
a sign. -/

theorem Parses.foldlM_chain {n : Nonterminal} {op : Operator} {ts us : List Lexeme} {p : Phrase}
    {opened : List OpenPhrase} (isBinary : op.isPrefix = false) (hop : op ∈ n.operators)
    (hp : Parses arity? selector n ts p) (hgap : gap opened ≤ n.rank) :
    (ts ++ .operator op :: us).foldlM (step arity? selector) ⟨opened, none⟩
      = us.foldlM (step arity? selector) ⟨.binary p op isBinary :: opened, none⟩ := by
  have hfour := Nonterminal.rank_le_of_mem_operators hop
  obtain ⟨opened₁, p₁, hfold, hreduce, -⟩ := hp opened hgap
  have hstep : step arity? selector ⟨opened₁, some p₁⟩ (.operator op)
      = .ok ⟨.binary p op isBinary :: opened, none⟩ := by
    rw [step_operator_after isBinary, threshold_of_mem_operators hop,
      hreduce n.rank (Nat.le_refl _) hfour, reduce_of_gap hgap hfour]
  rw [foldlM_append_of_ok hfold, foldlM_cons_of_ok hstep]

theorem Parses.foldlM_juxtaposed {ts us : List Lexeme} {p : Phrase} {opened : List OpenPhrase}
    (hus : us.head?.any Lexeme.startsFactor = true) (hp : Parses arity? selector .product ts p)
    (hgap : gap opened ≤ Nonterminal.product.rank) :
    (ts ++ us).foldlM (step arity? selector) ⟨opened, none⟩
      = us.foldlM (step arity? selector) ⟨.juxtaposed p :: opened, none⟩ := by
  obtain ⟨opened₁, p₁, hfold, hreduce, -⟩ := hp opened hgap
  rw [foldlM_append_of_ok hfold]
  cases us with
  | nil => cases hus
  | cons t us =>
      -- the first lexeme of the second factor shows that there is a product
      have ht : t.startsFactor = true := hus
      have hfour : reduce 4 opened p = (opened, p) := reduce_of_gap hgap (Nat.le_refl 4) p
      rw [List.foldlM_cons, List.foldlM_cons, step_factor_after ht,
        hreduce 4 (by decide) (by decide), hfour]

theorem Parses.foldlM_raised {ts us : List Lexeme} {p : Phrase}
    (hp : Parses arity? selector .indexed ts p) (opened : List OpenPhrase) :
    (ts ++ .operator .power :: us).foldlM (step arity? selector) ⟨opened, none⟩
      = us.foldlM (step arity? selector) ⟨.binary p .power rfl :: opened, none⟩ := by
  obtain ⟨opened₁, p₁, hfold, -, hsame⟩ := hp opened (Nat.le_trans (gap_le opened) (by decide))
  -- nothing in the base of a power stays open
  obtain ⟨rfl, rfl⟩ := hsame (by decide)
  have hstep : step arity? selector ⟨opened₁, some p₁⟩ (.operator .power)
      = .ok ⟨.binary p₁ .power rfl :: opened₁, none⟩ := by
    apply (step_operator_after rfl opened₁ p₁).trans
    rw [reduce_threshold_power]
  rw [foldlM_append_of_ok hfold, foldlM_cons_of_ok hstep]

theorem Parses.chain {n : Nonterminal} {op : Operator} {ts us : List Lexeme} {p q : Phrase}
    (isBinary : op.isPrefix = false) (hop : op ∈ n.operators)
    (hp : Parses arity? selector n ts p) (hq : Parses arity? selector n.next us q) :
    Parses arity? selector n (ts ++ .operator op :: us) (.binary op isBinary p q) := by
  have hfour := Nonterminal.rank_le_of_mem_operators hop
  have hprec := Nonterminal.precedence_of_mem_operators hop
  have hn : n ≠ .primary := by
    rintro rfl
    cases hop
  have hnext := Nonterminal.rank_next hn
  intro opened hgap
  exact Parses.close (f := .binary p op isBinary) rfl (by omega) (by omega) (by omega) hq
    (hp.foldlM_chain isBinary hop hgap)

theorem Parses.juxtaposed {ts us : List Lexeme} {p q : Phrase}
    (hus : us.head?.any Lexeme.startsFactor = true) (hp : Parses arity? selector .product ts p)
    (hq : Parses arity? selector .power us q) :
    Parses arity? selector .product (ts ++ us) (.juxtaposed p q) := by
  intro opened hgap
  exact Parses.close (f := .juxtaposed p) rfl (by decide) (by decide) (by decide) hq
    (hp.foldlM_juxtaposed hus hgap)

theorem Parses.raised {ts us : List Lexeme} {p q : Phrase}
    (hp : Parses arity? selector .indexed ts p) (hq : Parses arity? selector .power us q) :
    Parses arity? selector .power (ts ++ .operator .power :: us) (.binary .power rfl p q) := by
  intro opened _
  exact Parses.close (f := .binary p .power rfl) rfl (by decide) (by decide) (by decide) hq
    (hp.foldlM_raised opened)

/-! ## Primary phrases -/

/-- Lexemes that give a phrase whatever is open parse as it. -/
theorem Parses.of_primary {n : Nonterminal} {ts : List Lexeme} {p : Phrase}
    (h : ∀ opened, ts.foldlM (step arity? selector) ⟨opened, none⟩ = .ok ⟨opened, some p⟩) :
    Parses arity? selector n ts p := by
  intro opened _
  exact ⟨opened, p, h opened, fun _ _ _ => rfl, fun _ => ⟨rfl, rfl⟩⟩

theorem Parses.operand {t : Lexeme} {o : Operand} (ht : t.operand? = some o) :
    Parses arity? selector .primary [t] (.operand o) := by
  apply Parses.of_primary
  intro opened
  cases t <;> cases ht <;> rfl

/-- What is selected from is complete at its selector. -/
theorem Parses.foldlM_index {ts : List Lexeme} {raw : String} {p : Phrase}
    (hp : Parses arity? selector .indexed ts p) (hblank : (Text.trim raw.toList).isEmpty = false)
    (opened : List OpenPhrase) :
    (ts ++ [Lexeme.index raw]).foldlM (step arity? selector) ⟨opened, none⟩
      = (selector raw).map fun q => ⟨opened, some (.index p raw q)⟩ := by
  obtain ⟨opened', p', hfold, -, hsame⟩ := hp opened (Nat.le_trans (gap_le opened) (by decide))
  obtain ⟨rfl, rfl⟩ := hsame (by decide)
  have hstep : step arity? selector ⟨opened', some p'⟩ (.index raw)
      = (selector raw).map fun q => ⟨opened', some (.index p' raw q)⟩ := by
    show stepAfter arity? selector opened' p' (.index raw) = _
    rw [stepAfter, if_neg (Bool.eq_false_iff.1 hblank)]
    cases selector raw with
    | error e => rfl
    | ok q => rfl
  rw [foldlM_append_of_ok hfold, List.foldlM_cons, hstep]
  exact bind_pure _

theorem Parses.index {ts : List Lexeme} {raw : String} {p q : Phrase}
    (hp : Parses arity? selector .indexed ts p) (hblank : (Text.trim raw.toList).isEmpty = false)
    (hq : selector raw = .ok q) :
    Parses arity? selector .indexed (ts ++ [.index raw]) (.index p raw q) := by
  apply Parses.of_primary
  intro opened
  rw [hp.foldlM_index hblank opened, hq]
  rfl

/-- A formula after an opening parenthesis is complete at the lexeme that closes it. -/
theorem Parses.reduce_one {f : OpenPhrase} {ts : List Lexeme} {p : Phrase}
    (hp : Parses arity? selector .logical ts p) (hf : f.operator? = none)
    (opened : List OpenPhrase) :
    ∃ opened' q, ts.foldlM (step arity? selector) ⟨f :: opened, none⟩ = .ok ⟨opened', some q⟩ ∧
      reduce 1 opened' q = (f :: opened, p) := by
  obtain ⟨opened', q, hfold, hreduce, -⟩ := hp (f :: opened) (Nat.le_of_eq (gap_of_none hf opened))
  refine ⟨opened', q, hfold, ?_⟩
  rw [hreduce 1 (by decide) (by decide), reduce_cons_of_none hf]

theorem Parses.group {ts : List Lexeme} {p : Phrase} (hp : Parses arity? selector .logical ts p) :
    Parses arity? selector .primary (.openParen :: ts ++ [.closeParen]) (.group p) := by
  apply Parses.of_primary
  intro opened
  obtain ⟨opened', q, hfold, hreduce⟩ := hp.reduce_one (f := .group) rfl opened
  have hopen : step arity? selector ⟨opened, none⟩ .openParen
      = .ok ⟨.group :: opened, none⟩ := rfl
  have hclose : step arity? selector ⟨opened', some q⟩ .closeParen
      = .ok ⟨opened, some (.group p)⟩ := by
    show stepAfter arity? selector opened' q .closeParen = _
    rw [stepAfter, hreduce]
  rw [List.cons_append, foldlM_cons_of_ok hopen, foldlM_append_of_ok hfold,
    foldlM_cons_of_ok hclose]
  rfl

/-- An argument is complete at the comma after it. -/
theorem Parses.foldlM_comma {ts us : List Lexeme} {p : Phrase}
    (hp : Parses arity? selector .logical ts p) (name : String) (done : List Phrase)
    (opened : List OpenPhrase) :
    (ts ++ .comma :: us).foldlM (step arity? selector) ⟨.call name done :: opened, none⟩
      = us.foldlM (step arity? selector) ⟨.call name (p :: done) :: opened, none⟩ := by
  obtain ⟨opened', q, hfold, hreduce⟩ := hp.reduce_one (f := .call name done) rfl opened
  have hcomma : step arity? selector ⟨opened', some q⟩ .comma
      = .ok ⟨.call name (p :: done) :: opened, none⟩ := by
    show stepAfter arity? selector opened' q .comma = _
    rw [stepAfter, hreduce]
  rw [foldlM_append_of_ok hfold, foldlM_cons_of_ok hcomma]

/-- The first of several arguments is followed by a comma. -/
theorem intercalate_comma_cons (part next : List Lexeme × Phrase)
    (parts : List (List Lexeme × Phrase)) :
    [Lexeme.comma].intercalate ((part :: next :: parts).map Prod.fst)
      = part.1 ++ .comma :: [Lexeme.comma].intercalate ((next :: parts).map Prod.fst) := by
  simp [List.intercalate]

/-- The arguments of a call, up to the parenthesis that closes it, after those that are done. -/
theorem foldlM_arguments (name : String) (opened : List OpenPhrase)
    (part : List Lexeme × Phrase) (parts : List (List Lexeme × Phrase))
    (hparts : ∀ part' ∈ part :: parts, Parses arity? selector .logical part'.1 part'.2)
    (done : List Phrase) :
    ([Lexeme.comma].intercalate ((part :: parts).map Prod.fst) ++ [Lexeme.closeParen]).foldlM
        (step arity? selector) ⟨.call name done :: opened, none⟩
      = closeCall arity? name (done.reverse ++ (part :: parts).map Prod.snd) opened := by
  induction parts generalizing part done with
  | nil =>
      have hpart := hparts part (List.mem_singleton.2 rfl)
      obtain ⟨opened', q, hfold, hreduce⟩ := hpart.reduce_one (f := .call name done) rfl opened
      have hclose : step arity? selector ⟨opened', some q⟩ .closeParen
          = closeCall arity? name (done.reverse ++ [part.2]) opened := by
        show stepAfter arity? selector opened' q .closeParen = _
        rw [stepAfter, hreduce]
        show closeCall arity? name (part.2 :: done).reverse opened = _
        rw [List.reverse_cons]
      have hone : [Lexeme.comma].intercalate ([part].map Prod.fst) = part.1 := by
        simp [List.intercalate]
      rw [hone, foldlM_append_of_ok hfold, List.foldlM_cons, hclose]
      exact bind_pure _
  | cons next parts ih =>
      have hpart := hparts part List.mem_cons_self
      have hrest := ih next (fun part' h => hparts part' (List.mem_cons_of_mem _ h))
        (part.2 :: done)
      rw [intercalate_comma_cons, List.append_assoc, List.cons_append, hpart.foldlM_comma, hrest,
        List.reverse_cons, List.append_assoc]
      rfl

theorem step_call {name : String} (hname : (arity? name).isSome = true)
    (opened : List OpenPhrase) :
    step arity? selector ⟨opened, none⟩ (.call name) = .ok ⟨.call name [] :: opened, none⟩ := by
  show stepDue arity? opened (.call name) = _
  rw [stepDue, if_pos hname]

/-- The arguments of a call are counted at the parenthesis that closes it. -/
theorem foldlM_call {name : String} (hname : (arity? name).isSome = true)
    (parts : List (List Lexeme × Phrase))
    (hparts : ∀ part ∈ parts, Parses arity? selector .logical part.1 part.2)
    (opened : List OpenPhrase) :
    (Lexeme.call name :: [Lexeme.comma].intercalate (parts.map Prod.fst)
        ++ [Lexeme.closeParen]).foldlM (step arity? selector) ⟨opened, none⟩
      = closeCall arity? name (parts.map Prod.snd) opened := by
  rw [List.cons_append, foldlM_cons_of_ok (step_call hname opened)]
  cases parts with
  | nil =>
      have hstep : step arity? selector ⟨.call name [] :: opened, none⟩ .closeParen
          = closeCall arity? name [] opened := rfl
      rw [show [Lexeme.comma].intercalate ([].map Prod.fst) = [] from rfl, List.nil_append,
        List.foldlM_cons, hstep]
      exact bind_pure _
  | cons part parts => exact foldlM_arguments name opened part parts hparts []

theorem Parses.call {name : String} (parts : List (List Lexeme × Phrase))
    (harity : arity? name = some parts.length)
    (hparts : ∀ part ∈ parts, Parses arity? selector .logical part.1 part.2) :
    Parses arity? selector .primary
      (.call name :: [.comma].intercalate (parts.map Prod.fst) ++ [.closeParen])
      (.call name (parts.map Prod.snd)) := by
  apply Parses.of_primary
  intro opened
  rw [foldlM_call (by rw [harity, Option.isSome_some]) parts hparts, closeCall, harity]
  exact if_pos (List.length_map _)

/-! ## Derivations -/

end Reckon.Parse

namespace Reckon

open Parse (Parses SelectorComplete)

variable {arity? : String → Option Nat} {depth : Nat}

/-- A text with lexemes is not blank. -/
theorem Lexeme.trim_isEmpty_of_readings_ne_nil {raw : String} {ts : List Lexeme}
    (hscan : Lexeme.scan raw = .ok ts) (hne : Lexeme.readings arity? ts ≠ []) :
    (Text.trim raw.toList).isEmpty = false := by
  rw [Bool.eq_false_iff]
  intro hempty
  have hnone : Lexeme.scanFrom true (Text.trim raw.toList) = .ok [] := by
    rw [List.isEmpty_iff.1 hempty, Lexeme.scanFrom_nil]
  rw [Lexeme.scan, Lexeme.scanFrom_of_trim hnone] at hscan
  cases hscan
  exact hne rfl

/-- What derives from a nonterminal parses as it. -/
theorem Derives.parses {n : Nonterminal} {ts : List Lexeme} {p : Phrase}
    (h : Derives arity? depth n ts p) :
    ∀ {selector : String → Except Fault Phrase}, SelectorComplete arity? depth selector →
      Parses arity? selector n ts p := by
  -- the selectors in a derivation are shallower, so `selector` is fixed for each depth
  induction h with
  | single hn _ ih =>
      intro selector hselector
      exact .single hn (ih hselector)
  | chain isBinary hop _ _ ihp ihq =>
      intro selector hselector
      exact .chain isBinary hop (ihp hselector) (ihq hselector)
  | juxtaposed hus _ _ ihp ihq =>
      intro selector hselector
      exact .juxtaposed hus (ihp hselector) (ihq hselector)
  | negation _ ih =>
      intro selector hselector opened _
      exact Parses.close (f := .prefixed .negate rfl) rfl (by decide) (by decide) (by decide)
        (ih hselector) rfl
  | complement _ ih =>
      intro selector hselector opened _
      exact Parses.close (f := .prefixed .not rfl) rfl (by decide) (by decide) (by decide)
        (ih hselector) rfl
  | raised _ _ ihp ihq =>
      intro selector hselector
      exact .raised (ihp hselector) (ihq hselector)
  | index _ hscan hcontents ih =>
      intro selector hselector
      exact .index (ih hselector) (Lexeme.trim_isEmpty_of_readings_ne_nil hscan hcontents.ne_nil)
        (hselector _ _ _ _ rfl hscan hcontents)
  | operand ht =>
      intro selector _
      exact .operand ht
  | group _ ih =>
      intro selector hselector
      exact .group (ih hselector)
  | call parts harity _ ih =>
      intro selector hselector
      exact .call parts harity fun part hpart => ih part hpart hselector

/-! ## Whole formulas -/

namespace Phrase

variable {selector : String → Except Fault Phrase} {ts : List Lexeme} {p : Phrase}

theorem foldlM_step_singleton (s : Parse) (t : Lexeme) :
    [t].foldlM (Parse.step arity? selector) s = Parse.step arity? selector s t := by
  rw [List.foldlM_cons]
  exact bind_pure _

/-- A call of what is no function is taken as a name and a parenthesis. -/
theorem foldlM_reading (s : Parse) (t : Lexeme) :
    (t.reading arity?).foldlM (Parse.step arity? selector) s
      = Parse.step arity? selector s t := by
  cases t with
  | call name =>
      rw [Lexeme.reading]
      by_cases hname : (arity? name).isSome = true
      · rw [if_pos hname]
        exact foldlM_step_singleton s _
      · have hdue : ∀ opened, Parse.step arity? selector ⟨opened, none⟩ (.call name)
            = Parse.step arity? selector ⟨opened, some (.operand (.identifier name))⟩
                .openParen := by
          intro opened
          show Parse.stepDue arity? opened (.call name) = _
          rw [Parse.stepDue, if_neg hname]
          rfl
        rw [if_neg hname]
        obtain ⟨opened, _ | q⟩ := s
        · have hname : Parse.step arity? selector ⟨opened, none⟩ (.identifier name)
              = .ok ⟨opened, some (.operand (.identifier name))⟩ := rfl
          rw [hdue, Parse.foldlM_cons_of_ok hname, foldlM_step_singleton]
        · have hname : Parse.step arity? selector ⟨opened, some q⟩ (.identifier name)
              = .ok ⟨.juxtaposed (Parse.reduce 4 opened q).2 :: (Parse.reduce 4 opened q).1,
                  some (.operand (.identifier name))⟩ := rfl
          rw [Parse.step_factor_after rfl, hdue, Parse.foldlM_cons_of_ok hname,
            foldlM_step_singleton]
  | _ => exact foldlM_step_singleton s _

theorem foldlM_readings (s : Parse) :
    (Lexeme.readings arity? ts).foldlM (Parse.step arity? selector) s
      = ts.foldlM (Parse.step arity? selector) s := by
  induction ts generalizing s with
  | nil => rfl
  | cons t ts ih =>
      rw [Lexeme.readings, List.flatMap_cons, List.foldlM_append, foldlM_reading, List.foldlM_cons]
      exact bind_congr ih

/-- How lexemes are read makes no difference to their parse. -/
theorem ofLexemes_readings (arity? : String → Option Nat)
    (selector : String → Except Fault Phrase) (ts : List Lexeme) :
    ofLexemes arity? selector (Lexeme.readings arity? ts) = ofLexemes arity? selector ts := by
  have hempty : (Lexeme.readings arity? ts).isEmpty = ts.isEmpty := by
    cases ts with
    | nil => rfl
    | cons t ts =>
        have ht : t.reading arity? ≠ [] := by
          cases t with
          | call name =>
              rw [Lexeme.reading]
              split <;> exact List.cons_ne_nil _ _
          | _ => exact List.cons_ne_nil _ _
        rw [Lexeme.readings, List.flatMap_cons, List.isEmpty_cons, Bool.eq_false_iff]
        exact fun h => ht (List.append_eq_nil_iff.1 (List.isEmpty_iff.1 h)).1
  rw [ofLexemes, ofLexemes, hempty, foldlM_readings]

/-- What derives from the grammar is parsed, and its derivation tree found. -/
theorem ofLexemes_complete (hselector : SelectorComplete arity? depth selector)
    (h : Derives arity? depth .logical ts p) : ofLexemes arity? selector ts = .ok p := by
  obtain ⟨opened, q, hfold, hreduce, -⟩ := h.parses hselector [] (Nat.le_refl 1)
  have hfinish : Parse.finish ⟨opened, some q⟩ = .ok p := by
    have hone : Parse.reduce 1 opened q = ([], p) := hreduce 1 (Nat.le_refl 1) (by decide)
    simp only [Parse.finish, hone]
  rw [ofLexemes, if_neg fun hempty => h.ne_nil (List.isEmpty_iff.1 hempty), hfold]
  exact hfinish

theorem selectorComplete_ofSelector (limit depth : Nat) :
    SelectorComplete arity? depth (ofSelector arity? limit depth) := by
  induction depth with
  | zero =>
      intro inner raw ts p hdepth
      cases hdepth
  | succ depth ih =>
      intro inner raw ts p hdepth hscan h
      cases hdepth
      have hparse := ofLexemes_complete ih h
      rw [ofLexemes_readings] at hparse
      rw [ofSelector, hscan]
      exact hparse

/-- The parse of a formula succeeds exactly if its lexemes derive from the grammar, and gives
their derivation tree. -/
theorem ofLexemes_eq_ok_iff (limit depth : Nat) (ts : List Lexeme) (p : Phrase) :
    ofLexemes arity? (ofSelector arity? limit depth) ts = .ok p
      ↔ Derives arity? depth .logical (Lexeme.readings arity? ts) p := by
  constructor
  · intro h
    exact ofLexemes_sound (selectorSound_ofSelector limit depth) h
  · intro h
    have hparse := ofLexemes_complete (selectorComplete_ofSelector limit depth) h
    rwa [ofLexemes_readings] at hparse

end Phrase

/-- The grammar is unambiguous. -/
theorem Derives.unique {ts : List Lexeme} {p q : Phrase} (hp : Derives arity? depth .logical ts p)
    (hq : Derives arity? depth .logical ts q) : p = q := by
  have hparse := Phrase.ofLexemes_complete (Phrase.selectorComplete_ofSelector 0 depth) hp
  rw [Phrase.ofLexemes_complete (Phrase.selectorComplete_ofSelector 0 depth) hq] at hparse
  exact (Except.ok.inj hparse).symm

end Reckon
