/-
# Reckon.Proofs.Grammar.Miscount — calls with a wrong number of arguments

Where lexemes fit the grammar except that calls may have any number of arguments
(`DerivesUncounted`), nothing can go wrong with their parse but such a call. It goes wrong where
the first of them is closed: up to there the parse is that of a derivation, and a call is not
looked at before its arguments, and those of the calls in them, are complete.
-/
import Reckon.Proofs.Grammar.Completeness

namespace Reckon

/-! ## The calls in a phrase -/

namespace Phrase

mutual

/-- The calls in a phrase, by their names and the numbers of their arguments, in the order in
which they are closed: the calls in the arguments of a call, or before a selector, come first. -/
def calls : Phrase → List (String × Nat)
  | .operand _ => []
  | .group inner => inner.calls
  | .call name args => callsAll args ++ [(name, args.length)]
  | .index target _ contents => target.calls ++ contents.calls
  | .prefixed _ _ p => p.calls
  | .binary _ _ left right => left.calls ++ right.calls
  | .juxtaposed left right => left.calls ++ right.calls

/-- The calls in phrases that follow one another. -/
def callsAll : List Phrase → List (String × Nat)
  | [] => []
  | p :: rest => p.calls ++ callsAll rest

end

theorem mem_callsAll {ps : List Phrase} {call : String × Nat} :
    call ∈ callsAll ps ↔ ∃ p ∈ ps, call ∈ p.calls := by
  induction ps with
  | nil => simp [callsAll]
  | cons p ps ih => simp [callsAll, ih]

theorem forall_mem_callsAll {ps : List Phrase} {accepts : String × Nat → Prop} :
    (∀ call ∈ callsAll ps, accepts call) ↔ ∀ p ∈ ps, ∀ call ∈ p.calls, accepts call := by
  constructor
  · intro h p hp call hcall
    exact h call (mem_callsAll.2 ⟨p, hp, hcall⟩)
  · intro h call hcall
    obtain ⟨p, hp, hcall⟩ := mem_callsAll.1 hcall
    exact h p hp call hcall

end Phrase

/-- The calls have as many arguments as their functions take. -/
def Counted (arity? : String → Option Nat) (calls : List (String × Nat)) : Prop :=
  ∀ call ∈ calls, arity? call.1 = some call.2

/-- The fault is about the first of the calls that has another number of arguments than its
function takes. -/
def FirstMiscount (arity? : String → Option Nat) (calls : List (String × Nat)) (e : Fault) : Prop :=
  ∃ name given expected,
    calls.find? (fun call => arity? call.1 != some call.2) = some (name, given) ∧
    arity? name = some expected ∧ e = .arity name given expected

variable {arity? : String → Option Nat} {depth : Nat} {e : Fault}

/-- The first call that is miscounted is among the first calls, unless these are counted. -/
theorem FirstMiscount.of_append {calls rest : List (String × Nat)}
    (h : FirstMiscount arity? (calls ++ rest) e) :
    FirstMiscount arity? calls e ∨ (Counted arity? calls ∧ FirstMiscount arity? rest e) := by
  obtain ⟨name, given, expected, hfind, hname, rfl⟩ := h
  rw [List.find?_append, Option.or_eq_some_iff] at hfind
  rcases hfind with hfind | ⟨hnone, hfind⟩
  · exact .inl ⟨name, given, expected, hfind, hname, rfl⟩
  · refine .inr ⟨fun call hcall => ?_, name, given, expected, hfind, hname, rfl⟩
    simpa using List.find?_eq_none.1 hnone call hcall

/-! ## The grammar without counts -/

/-- `DerivesUncounted arity? depth n ts p`: as `Derives`, but a call may have any number of
arguments. The function must be known. -/
abbrev DerivesUncounted (arity? : String → Option Nat) (depth : Nat) (n : Nonterminal)
    (ts : List Lexeme) (p : Phrase) : Prop :=
  DerivesWith arity? (fun name _ => (arity? name).isSome = true) depth n ts p

namespace DerivesWith

variable {accepts accepts' : String → Nat → Prop} {n : Nonterminal} {ts : List Lexeme} {p : Phrase}

/-- The calls have numbers of arguments that are accepted. -/
theorem accepts_of_mem_calls (h : DerivesWith arity? accepts depth n ts p) :
    ∀ call ∈ p.calls, accepts call.1 call.2 := by
  induction h with
  | single _ _ ih => exact ih
  | chain _ _ _ _ ihp ihq => exact List.forall_mem_append.2 ⟨ihp, ihq⟩
  | juxtaposed _ _ _ ihp ihq => exact List.forall_mem_append.2 ⟨ihp, ihq⟩
  | negation _ ih => exact ih
  | complement _ ih => exact ih
  | raised _ _ ihp ihq => exact List.forall_mem_append.2 ⟨ihp, ihq⟩
  | index _ _ _ ihp ihq => exact List.forall_mem_append.2 ⟨ihp, ihq⟩
  | operand _ => nofun
  | group _ ih => exact ih
  | call parts hname _ ih =>
      refine List.forall_mem_append.2 ⟨?_, List.forall_mem_singleton.2 ?_⟩
      · exact Phrase.forall_mem_callsAll.2 (List.forall_mem_map.2 ih)
      · rwa [List.length_map]

/-- A derivation is one under any condition that its calls satisfy. -/
theorem of_calls (h : DerivesWith arity? accepts depth n ts p)
    (hp : ∀ call ∈ p.calls, accepts' call.1 call.2) : DerivesWith arity? accepts' depth n ts p := by
  induction h with
  | single hn _ ih => exact .single hn (ih hp)
  | chain isBinary hop _ _ ihp ihq =>
      obtain ⟨hp, hq⟩ := List.forall_mem_append.1 hp
      exact .chain isBinary hop (ihp hp) (ihq hq)
  | juxtaposed hus _ _ ihp ihq =>
      obtain ⟨hp, hq⟩ := List.forall_mem_append.1 hp
      exact .juxtaposed hus (ihp hp) (ihq hq)
  | negation _ ih => exact .negation (ih hp)
  | complement _ ih => exact .complement (ih hp)
  | raised _ _ ihp ihq =>
      obtain ⟨hp, hq⟩ := List.forall_mem_append.1 hp
      exact .raised (ihp hp) (ihq hq)
  | index _ hscan _ ihp ihq =>
      obtain ⟨hp, hq⟩ := List.forall_mem_append.1 hp
      exact .index (ihp hp) hscan (ihq hq)
  | operand ht => exact .operand ht
  | group _ ih => exact .group (ih hp)
  | call parts _ _ ih =>
      obtain ⟨hargs, hcall⟩ := List.forall_mem_append.1 hp
      have harity := hcall _ (List.mem_singleton.2 rfl)
      rw [List.length_map] at harity
      refine .call parts harity fun part hpart => ih part hpart ?_
      exact Phrase.forall_mem_callsAll.1 hargs part.2 (List.mem_map_of_mem hpart)

/-- If all calls are counted, the lexemes derive from the grammar. -/
theorem derives (h : DerivesWith arity? accepts depth n ts p) (hp : Counted arity? p.calls) :
    Derives arity? depth n ts p :=
  h.of_calls hp

end DerivesWith

/-! ## Where the parse fails -/

theorem not_firstMiscount_nil : ¬ FirstMiscount arity? [] e := by
  rintro ⟨name, given, expected, hfind, -, -⟩
  cases hfind

namespace Parse

variable {selector : String → Except Fault Phrase} {n m : Nonterminal} {ts us : List Lexeme}

/-- The parse of lexemes that stand where the nonterminal `n` can stand ends with the fault. -/
def Fails (arity? : String → Option Nat) (selector : String → Except Fault Phrase)
    (n : Nonterminal) (ts : List Lexeme) (e : Fault) : Prop :=
  ∀ opened, gap opened ≤ n.rank →
    ts.foldlM (step arity? selector) ⟨opened, none⟩ = .error e

/-- `selector` fails where the first call of the contents of a selector that is miscounted is
closed. -/
def SelectorFails (arity? : String → Option Nat) (depth : Nat)
    (selector : String → Except Fault Phrase) : Prop :=
  ∀ inner raw ts p e, depth = inner + 1 → Lexeme.scan raw = .ok ts →
    DerivesUncounted arity? inner .logical (Lexeme.readings arity? ts) p →
    FirstMiscount arity? p.calls e → selector raw = .error e

theorem foldlM_append_of_error {s : Parse} (h : ts.foldlM (step arity? selector) s = .error e)
    (us : List Lexeme) : (ts ++ us).foldlM (step arity? selector) s = .error e := by
  rw [List.foldlM_append, h]
  rfl

/-- What follows lexemes that fail is not looked at. -/
theorem Fails.append (h : Fails arity? selector m ts e) (hrank : min n.rank 5 ≤ m.rank)
    (us : List Lexeme) : Fails arity? selector n (ts ++ us) e := by
  intro opened hgap
  have hfive := gap_le opened
  exact foldlM_append_of_error (h opened (by omega)) us

/-- A last part that fails makes its phrase fail. -/
theorem Fails.last {f : OpenPhrase} {op : Operator} (h : Fails arity? selector m us e)
    (hf : f.operator? = some op) (hrank : min (op.precedence + 1) 5 ≤ m.rank)
    (opened : List OpenPhrase) :
    us.foldlM (step arity? selector) ⟨f :: opened, none⟩ = .error e :=
  h (f :: opened) (by rwa [gap_of_some hf])

/-- A formula after an opening parenthesis makes what it is in fail. -/
theorem Fails.inner {f : OpenPhrase} (h : Fails arity? selector .logical us e)
    (hf : f.operator? = none) (opened : List OpenPhrase) (rest : List Lexeme) :
    (us ++ rest).foldlM (step arity? selector) ⟨f :: opened, none⟩ = .error e :=
  foldlM_append_of_error (h (f :: opened) (Nat.le_of_eq (gap_of_none hf opened))) rest

/-- The arguments of a call fail where the first of their calls that is miscounted is closed, after
those that are done. -/
theorem foldlM_arguments_fails (name : String) (opened : List OpenPhrase)
    (part : List Lexeme × Phrase) (parts : List (List Lexeme × Phrase))
    (hparses : ∀ part' ∈ part :: parts, Counted arity? part'.2.calls →
      Parses arity? selector .logical part'.1 part'.2)
    (hfails : ∀ part' ∈ part :: parts, FirstMiscount arity? part'.2.calls e →
      Fails arity? selector .logical part'.1 e)
    (h : FirstMiscount arity? (Phrase.callsAll ((part :: parts).map Prod.snd)) e)
    (done : List Phrase) (rest : List Lexeme) :
    ([Lexeme.comma].intercalate ((part :: parts).map Prod.fst) ++ rest).foldlM
        (step arity? selector) ⟨.call name done :: opened, none⟩ = .error e := by
  induction parts generalizing part done with
  | nil =>
      have hone : [Lexeme.comma].intercalate ([part].map Prod.fst) = part.1 := by
        simp [List.intercalate]
      have hpart : FirstMiscount arity? part.2.calls e :=
        h.of_append.resolve_right fun hnil => not_firstMiscount_nil hnil.2
      rw [hone]
      exact (hfails part List.mem_cons_self hpart).inner rfl opened rest
  | cons next parts ih =>
      rw [intercalate_comma_cons, List.append_assoc, List.cons_append]
      rcases h.of_append with hpart | ⟨hcounted, hrest⟩
      · exact (hfails part List.mem_cons_self hpart).inner rfl opened _
      · rw [(hparses part List.mem_cons_self hcounted).foldlM_comma]
        exact ih next (fun part' h => hparses part' (List.mem_cons_of_mem _ h))
          (fun part' h => hfails part' (List.mem_cons_of_mem _ h)) hrest _

theorem closeCall_of_firstMiscount {name : String} {args : List Phrase}
    (h : FirstMiscount arity? [(name, args.length)] e) (opened : List OpenPhrase) :
    closeCall arity? name args opened = .error e := by
  obtain ⟨name', given, expected, hfind, harity, rfl⟩ := h
  obtain ⟨rfl, rfl⟩ := Prod.mk.inj (List.mem_singleton.1 (List.mem_of_find?_eq_some hfind))
  have hne := List.find?_some hfind
  rw [closeCall, harity]
  refine if_neg ?_
  rintro rfl
  simp [harity] at hne

/-- A call fails where its arguments do, or at the parenthesis that closes it. -/
theorem Fails.call {name : String} (parts : List (List Lexeme × Phrase))
    (hname : (arity? name).isSome = true)
    (hparses : ∀ part ∈ parts, Counted arity? part.2.calls →
      Parses arity? selector .logical part.1 part.2)
    (hfails : ∀ part ∈ parts, FirstMiscount arity? part.2.calls e →
      Fails arity? selector .logical part.1 e)
    (h : FirstMiscount arity? (Phrase.call name (parts.map Prod.snd)).calls e) :
    Fails arity? selector .primary
      (.call name :: [.comma].intercalate (parts.map Prod.fst) ++ [.closeParen]) e := by
  intro opened _
  rcases h.of_append with hargs | ⟨hcounted, hcall⟩
  · rw [List.cons_append, foldlM_cons_of_ok (step_call hname opened)]
    cases parts with
    | nil => exact absurd hargs not_firstMiscount_nil
    | cons part parts =>
        exact foldlM_arguments_fails name opened part parts hparses hfails hargs [] _
  · have hparts : ∀ part ∈ parts, Parses arity? selector .logical part.1 part.2 := by
      intro part hpart
      exact hparses part hpart (Phrase.forall_mem_callsAll.1 hcounted _ (List.mem_map_of_mem hpart))
    rw [foldlM_call hname parts hparts]
    exact closeCall_of_firstMiscount hcall opened

end Parse

open Parse (Fails SelectorComplete SelectorFails)

/-- Lexemes that fit the grammar but for the counts fail where the first call that is miscounted
is closed. -/
theorem DerivesUncounted.fails {n : Nonterminal} {ts : List Lexeme} {p : Phrase}
    (h : DerivesUncounted arity? depth n ts p) :
    ∀ {selector : String → Except Fault Phrase} {e : Fault},
      SelectorComplete arity? depth selector → SelectorFails arity? depth selector →
      FirstMiscount arity? p.calls e → Fails arity? selector n ts e := by
  -- a part that comes before the fault derives from the grammar, and is parsed as such
  induction h with
  | single hn _ ih =>
      intro selector e hselector hfails he opened hgap
      have hnext := Nonterminal.rank_next hn
      exact ih hselector hfails he opened (by omega)
  | @chain _ n op _ _ _ _ isBinary hop hp _ ihp ihq =>
      intro selector e hselector hfails he
      rcases he.of_append with he | ⟨hcounted, he⟩
      · exact (ihp hselector hfails he).append (Nat.min_le_left _ _) _
      · intro opened hgap
        have hn : n ≠ .primary := by
          rintro rfl
          cases hop
        have hnext := Nonterminal.rank_next hn
        have hprec := Nonterminal.precedence_of_mem_operators hop
        rw [((hp.derives hcounted).parses hselector).foldlM_chain isBinary hop hgap]
        exact (ihq hselector hfails he).last (f := .binary _ op isBinary) rfl (by omega) opened
  | juxtaposed hus hp _ ihp ihq =>
      intro selector e hselector hfails he
      rcases he.of_append with he | ⟨hcounted, he⟩
      · exact (ihp hselector hfails he).append (by decide) _
      · intro opened hgap
        rw [((hp.derives hcounted).parses hselector).foldlM_juxtaposed hus hgap]
        exact (ihq hselector hfails he).last (f := .juxtaposed _) rfl (by decide) opened
  | negation _ ih =>
      intro selector e hselector hfails he opened _
      exact (ih hselector hfails he).last (f := .prefixed .negate rfl) rfl (by decide) opened
  | complement _ ih =>
      intro selector e hselector hfails he opened _
      exact (ih hselector hfails he).last (f := .prefixed .not rfl) rfl (by decide) opened
  | raised hp _ ihp ihq =>
      intro selector e hselector hfails he
      rcases he.of_append with he | ⟨hcounted, he⟩
      · exact (ihp hselector hfails he).append (by decide) _
      · intro opened _
        rw [((hp.derives hcounted).parses hselector).foldlM_raised opened]
        exact (ihq hselector hfails he).last (f := .binary _ .power rfl) rfl (by decide) opened
  | index hp hscan hcontents ihp _ =>
      intro selector e hselector hfails he
      rcases he.of_append with he | ⟨hcounted, he⟩
      · exact (ihp hselector hfails he).append (by decide) _
      · intro opened _
        have hblank := Lexeme.trim_isEmpty_of_readings_ne_nil hscan hcontents.ne_nil
        rw [((hp.derives hcounted).parses hselector).foldlM_index hblank opened,
          hfails _ _ _ _ _ rfl hscan hcontents he]
        rfl
  | operand _ =>
      intro selector e _ _ he
      exact absurd he not_firstMiscount_nil
  | group _ ih =>
      intro selector e hselector hfails he opened _
      exact (ih hselector hfails he).inner (f := .group) rfl opened _
  | call parts hname hparts ih =>
      intro selector e hselector hfails he
      exact .call parts hname
        (fun part hpart hcounted => ((hparts part hpart).derives hcounted).parses hselector)
        (fun part hpart he => ih part hpart hselector hfails he) he

namespace Phrase

theorem ofLexemes_fails {selector : String → Except Fault Phrase} {ts : List Lexeme} {p : Phrase}
    (hselector : SelectorComplete arity? depth selector)
    (hfails : SelectorFails arity? depth selector)
    (h : DerivesUncounted arity? depth .logical ts p) (he : FirstMiscount arity? p.calls e) :
    ofLexemes arity? selector ts = .error e := by
  have hfold := h.fails hselector hfails he [] (Nat.le_refl 1)
  rw [ofLexemes, if_neg fun hempty => h.ne_nil (List.isEmpty_iff.1 hempty), hfold]
  rfl

theorem selectorFails_ofSelector (limit depth : Nat) :
    SelectorFails arity? depth (ofSelector arity? limit depth) := by
  induction depth with
  | zero =>
      intro inner raw ts p e hdepth
      cases hdepth
  | succ depth ih =>
      intro inner raw ts p e hdepth hscan h he
      cases hdepth
      have hparse := ofLexemes_fails (selectorComplete_ofSelector limit depth) ih h he
      rw [ofLexemes_readings] at hparse
      rw [ofSelector, hscan]
      exact hparse

end Phrase

end Reckon
