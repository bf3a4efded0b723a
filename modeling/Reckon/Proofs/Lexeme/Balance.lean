/-
# Reckon.Proofs.Lexeme.Balance — a bracket is closed where the count comes back to zero

The search for the partner of a bracket goes through a text character by character, with a counter
of open brackets and the quote of the run that it is in. Where it ends can be said without it
(`ClosesAt`). Quoted runs come first: from the left, a run starts at a quote outside any run, and
ends at the next quote of its kind that no backslash in the run hides, or with the text (`Masked`).
Among the brackets that are left, the partner is the first closing one up to which as many brackets
have been closed as opened, and a bracket without such a place is unterminated
(`balancedEnd?_isLeast`).

The search is taken apart twice for this. That it passes over quoted runs shows that a text and its
mask are searched alike, and in a mask only the count matters. As a loop of turns (`Search.turn`) it
takes nothing from a counter at zero: the first turn opens a bracket, and no turn but the last one
closes it.
-/
import Mathlib.Logic.Relation
import Mathlib.Order.Bounds.Basic
import Reckon.Proofs.Lexeme.Literal
import Reckon.Proofs.Lexeme.Passage

namespace Reckon.Lexeme

variable {depth : Nat} {quote c : Char} {cs ms rest : List Char}

/-! ## Quoted runs -/

/-- What stands for a quoted run of `n` characters where only brackets count. -/
def blanks (n : Nat) : List Char :=
  List.replicate n ' '

/-- The second text is the first one with its quoted runs blanked. A run starts at a quote outside
any run. It ends at the next quote of its kind that nothing in the run hides, or with the text. -/
inductive Masked : List Char → List Char → Prop
  | nil : Masked [] []
  | plain {c : Char} {cs ms : List Char} :
      isQuote c = false → Masked cs ms → Masked (c :: cs) (c :: ms)
  | run {quote : Char} {body rest ms : List Char} :
      isQuote quote = true → ¬ Hides body → AllHidden quote body → Masked rest ms →
      Masked (quote :: (body ++ quote :: rest)) (blanks (body.length + 2) ++ ms)
  | openRun {quote : Char} {body : List Char} :
      isQuote quote = true → AllHidden quote body →
      Masked (quote :: body) (blanks (body.length + 1))

theorem length_blanks (n : Nat) : (blanks n).length = n :=
  List.length_replicate

theorem passedOver_blanks (n : Nat) : PassedOver (blanks n) :=
  .of_unmarked fun c hc => by
    rw [List.eq_of_mem_replicate hc]
    rfl

theorem ne_backslash_of_isQuote (h : isQuote quote = true) : quote ≠ '\\' := by
  rintro rfl
  cases h

/-- A run ends where a literal would end. -/
theorem splitAtStop?_run {body : List Char} (hquote : isQuote quote = true) (hend : ¬ Hides body)
    (hall : AllHidden quote body) (rest : List Char) :
    splitAtStop? quote (body ++ quote :: rest) = some (body, rest) :=
  (splitAtStop?_eq_some_iff (ne_backslash_of_isQuote hquote)).2 ⟨rfl, hend, hall⟩

/-- Where a literal would have no end, a run goes on to the end of the text. -/
theorem splitAtStop?_openRun {body : List Char} (hquote : isQuote quote = true)
    (hall : AllHidden quote body) : splitAtStop? quote body = none :=
  (splitAtStop?_eq_none_iff (ne_backslash_of_isQuote hquote)).2 hall

/-- Every text has a mask. -/
theorem exists_masked (cs : List Char) : ∃ ms, Masked cs ms := by
  induction hlength : cs.length using Nat.strong_induction_on generalizing cs with
  | _ n ih =>
      cases cs with
      | nil => exact ⟨[], .nil⟩
      | cons c cs =>
          rw [List.length_cons] at hlength
          cases hc : isQuote c with
          | false =>
              obtain ⟨ms, hms⟩ := ih cs.length (by omega) cs rfl
              exact ⟨c :: ms, .plain hc hms⟩
          | true =>
              have hne := ne_backslash_of_isQuote hc
              rcases hsplit : splitAtStop? c cs with _ | ⟨body, rest⟩
              · exact ⟨_, .openRun hc ((splitAtStop?_eq_none_iff hne).1 hsplit)⟩
              · have hlt := length_splitAtStop? hsplit
                obtain ⟨ms, hms⟩ := ih rest.length (by omega) rest rfl
                obtain ⟨rfl, hend, hall⟩ := (splitAtStop?_eq_some_iff hne).1 hsplit
                exact ⟨_, .run hc hend hall hms⟩

namespace Masked

/-- Outside runs a character is left as it is. -/
theorem of_cons (hc : isQuote c = false) (h : Masked (c :: cs) ms) :
    ∃ tail, ms = c :: tail ∧ Masked cs tail := by
  generalize htext : c :: cs = text at h
  cases h with
  | nil => cases htext
  | plain _ h =>
      cases htext
      exact ⟨_, rfl, h⟩
  | run hquote =>
      cases htext
      rw [hc] at hquote
      cases hquote
  | openRun hquote =>
      cases htext
      rw [hc] at hquote
      cases hquote

/-- A quote starts a run, which ends where a literal would end. -/
theorem of_quote (hquote : isQuote quote = true) (h : Masked (quote :: cs) ms) :
    match splitAtStop? quote cs with
    | none => ms = blanks (cs.length + 1)
    | some (body, rest) => ∃ tail, ms = blanks (body.length + 2) ++ tail ∧ Masked rest tail := by
  generalize htext : quote :: cs = text at h
  cases h with
  | nil => cases htext
  | plain hc =>
      cases htext
      rw [hquote] at hc
      cases hc
  | run _ hend hall h =>
      cases htext
      rw [splitAtStop?_run hquote hend hall]
      exact ⟨_, rfl, h⟩
  | openRun _ hall =>
      cases htext
      rw [splitAtStop?_openRun hquote hall]

/-- A text has one mask only. -/
theorem unique {ms' : List Char} (h : Masked cs ms) (h' : Masked cs ms') : ms' = ms := by
  induction h generalizing ms' with
  | nil =>
      cases h'
      rfl
  | plain hc _ ih =>
      obtain ⟨tail, rfl, htail⟩ := h'.of_cons hc
      rw [ih htail]
  | run hquote hend hall _ ih =>
      have hrun := h'.of_quote hquote
      rw [splitAtStop?_run hquote hend hall] at hrun
      obtain ⟨tail, rfl, htail⟩ := hrun
      rw [ih htail]
  | openRun hquote hall =>
      have hrun := h'.of_quote hquote
      rw [splitAtStop?_openRun hquote hall] at hrun
      exact hrun

/-- No quotes are left in a mask. -/
theorem isQuote_eq_false (h : Masked cs ms) : ∀ c ∈ ms, isQuote c = false := by
  have hblank : ∀ n, ∀ c ∈ blanks n, isQuote c = false := by
    intro n c hc
    rw [List.eq_of_mem_replicate hc]
    rfl
  induction h with
  | nil => nofun
  | plain hc _ ih => exact List.forall_mem_cons.2 ⟨hc, ih⟩
  | run _ _ _ _ ih => exact List.forall_mem_append.2 ⟨hblank _, ih⟩
  | openRun => exact hblank _

/-- A text and its mask are searched alike. -/
theorem closingOffset?_eq (h : Masked cs ms) (depth : Nat) :
    closingOffset? (depth + 1) none cs = closingOffset? (depth + 1) none ms := by
  induction h generalizing depth with
  | nil => rfl
  | @plain c cs ms hc _ ih =>
      cases hopen : isOpening c with
      | true => rw [closingOffset?_opening hopen, closingOffset?_opening hopen, ih]
      | false =>
          cases hclose : isClosing c with
          | true =>
              cases depth with
              | zero => rw [closingOffset?_last hclose, closingOffset?_last hclose]
              | succ depth => rw [closingOffset?_closing hclose, closingOffset?_closing hclose, ih]
          | false =>
              have hmark : isMark c = false := by simp [isMark, hopen, hclose, hc]
              rw [closingOffset?_unmarked hmark, closingOffset?_unmarked hmark, ih]
  | @run quote body rest ms hquote hend hall _ ih =>
      have hrun := PassedOver.quoted hquote (splitAtStop?_run hquote hend hall rest) depth rest
      rw [List.append_assoc, List.cons_append, List.singleton_append, ih, List.length_append,
        List.length_cons, List.length_singleton] at hrun
      rw [hrun, passedOver_blanks, length_blanks]
  | @openRun quote body hquote hall =>
      have hopen := splitAtStop?_openRun hquote hall
      have hblanks := passedOver_blanks (body.length + 1) depth []
      rw [List.append_nil] at hblanks
      rw [closingOffset?_quote hquote, closingOffset?_eq_none_of_splitAtStop? hopen, hblanks]
      rfl

end Masked

/-! ## Places where the count comes back to zero -/

/-- How many more opening than closing brackets a text has. -/
def excess (ms : List Char) : Int :=
  ms.countP isOpening - ms.countP isClosing

theorem excess_cons_of_isOpening (h : isOpening c = true) (ms : List Char) :
    excess (c :: ms) = excess ms + 1 := by
  simp only [excess, List.countP_cons, h, isClosing_of_isOpening h, if_true, Bool.false_eq_true,
    if_false]
  omega

theorem excess_cons_of_isClosing (h : isClosing c = true) (ms : List Char) :
    excess (c :: ms) = excess ms - 1 := by
  simp only [excess, List.countP_cons, h, isOpening_of_isClosing h, if_true, Bool.false_eq_true,
    if_false]
  omega

theorem excess_cons (hopen : isOpening c = false) (hclose : isClosing c = false)
    (ms : List Char) : excess (c :: ms) = excess ms := by
  simp [excess, hopen, hclose]

/-- There is a closing bracket at the place, and with it the last bracket is closed, if the text
starts inside as many brackets as `depth` says. -/
structure Closes (depth : Nat) (ms : List Char) (i : Nat) : Prop where
  closing : ∃ c ∈ ms[i]?, isClosing c = true
  excess_eq : depth + excess (ms.take (i + 1)) = 0

namespace Closes

theorem not_zero (h : isClosing c = false) : ¬ Closes depth (c :: ms) 0 := by
  rintro ⟨⟨d, hd, hclose⟩, -⟩
  cases hd
  rw [h] at hclose
  cases hclose

theorem zero_iff (h : isClosing c = true) : Closes depth (c :: ms) 0 ↔ depth = 1 := by
  have hone : excess [c] = -1 := excess_cons_of_isClosing h []
  constructor
  · intro hzero
    have hexcess := hzero.excess_eq
    rw [List.take_succ_cons, List.take_zero, hone] at hexcess
    omega
  · rintro rfl
    refine ⟨⟨c, rfl, h⟩, ?_⟩
    rw [List.take_succ_cons, List.take_zero, hone]
    rfl

/-- The first character of a text changes how many brackets are open behind it. -/
theorem succ_iff {depth' i : Nat}
    (h : depth + excess (c :: ms.take (i + 1)) = depth' + excess (ms.take (i + 1))) :
    Closes depth (c :: ms) (i + 1) ↔ Closes depth' ms i := by
  constructor
  · rintro ⟨hclosing, hexcess⟩
    rw [List.take_succ_cons, h] at hexcess
    exact ⟨by simpa using hclosing, hexcess⟩
  · rintro ⟨hclosing, hexcess⟩
    refine ⟨by simpa using hclosing, ?_⟩
    rw [List.take_succ_cons, h]
    exact hexcess

end Closes

/-! ## The least place -/

/-- The answer is the least of the places, if there are any. -/
def Locates (places : Set Nat) : Option Nat → Prop
  | some n => IsLeast places n
  | none => ∀ i, i ∉ places

namespace Locates

variable {places : Set Nat} {answer : Option Nat}

theorem eq_some_iff {n : Nat} (h : Locates places answer) :
    answer = some n ↔ IsLeast places n := by
  constructor
  · rintro rfl
    exact h
  · intro hn
    cases answer with
    | none => exact absurd hn.1 (h n)
    | some m => rw [IsLeast.unique h hn]

theorem eq_none_iff (h : Locates places answer) : answer = none ↔ ∀ i, i ∉ places := by
  constructor
  · rintro rfl
    exact h
  · intro hempty
    cases answer with
    | none => rfl
    | some m => exact absurd h.1 (hempty m)

/-- The places may be counted from further ahead. -/
theorem shift {places' : Set Nat} (k : Nat) (h : Locates places answer)
    (hplaces : ∀ i, i ∈ places' ↔ k ≤ i ∧ i - k ∈ places) :
    Locates places' (answer.map (· + k)) := by
  cases answer with
  | none => exact fun i hi => h _ ((hplaces i).1 hi).2
  | some n =>
      refine ⟨(hplaces _).2 ⟨Nat.le_add_left k n, ?_⟩, ?_⟩
      · rw [Nat.add_sub_cancel]
        exact h.1
      · intro i hi
        obtain ⟨hle, hmem⟩ := (hplaces i).1 hi
        have hleast := h.2 hmem
        show n + k ≤ i
        omega

/-- If the first character of a text does not close the last bracket, the places are those behind
it. -/
theorem closes_cons {depth' : Nat} (h : Locates {i | Closes depth' ms i} answer)
    (hzero : ¬ Closes depth (c :: ms) 0)
    (hexcess : ∀ i, depth + excess (c :: ms.take i) = depth' + excess (ms.take i)) :
    Locates {i | Closes depth (c :: ms) i} (answer.map (· + 1)) := by
  refine h.shift 1 fun i => ?_
  cases i with
  | zero => simp [hzero]
  | succ i => simp [Closes.succ_iff (hexcess (i + 1))]

end Locates

/-- In a text without quotes the search finds the least place. -/
theorem locates_closingOffset? (h : ∀ c ∈ ms, isQuote c = false) (depth : Nat) :
    Locates {i | Closes (depth + 1) ms i} (closingOffset? (depth + 1) none ms) := by
  induction ms generalizing depth with
  | nil =>
      rintro i ⟨⟨c, hc, -⟩, -⟩
      cases hc
  | cons c ms ih =>
      rw [List.forall_mem_cons] at h
      cases hopen : isOpening c with
      | true =>
          rw [closingOffset?_opening hopen]
          refine (ih h.2 _).closes_cons (Closes.not_zero (isClosing_of_isOpening hopen)) fun i => ?_
          rw [excess_cons_of_isOpening hopen]
          omega
      | false =>
          cases hclose : isClosing c with
          | true =>
              cases depth with
              | zero =>
                  rw [closingOffset?_last hclose]
                  exact ⟨(Closes.zero_iff hclose).2 rfl, fun i _ => Nat.zero_le i⟩
              | succ depth =>
                  have hzero : ¬ Closes (depth + 1 + 1) (c :: ms) 0 := by
                    rw [Closes.zero_iff hclose]
                    omega
                  rw [closingOffset?_closing hclose]
                  refine (ih h.2 _).closes_cons hzero fun i => ?_
                  rw [excess_cons_of_isClosing hclose]
                  omega
          | false =>
              have hmark : isMark c = false := by simp [isMark, hopen, hclose, h.1]
              rw [closingOffset?_unmarked hmark]
              refine (ih h.2 _).closes_cons (Closes.not_zero hclose) fun i => ?_
              rw [excess_cons hopen hclose]

/-- From an opening bracket on, the search finds the least place in the mask of the text. -/
theorem Masked.locates_balancedEnd? (hopen : isOpening c = true) (h : Masked (c :: cs) ms) :
    Locates {i | Closes 0 ms i} (balancedEnd? (c :: cs)) := by
  obtain ⟨tail, rfl, htail⟩ := h.of_cons (isQuote_of_isOpening hopen)
  have hlocates := locates_closingOffset? htail.isQuote_eq_false 0
  rw [balancedEnd?, closingOffset?_opening hopen, htail.closingOffset?_eq]
  refine hlocates.closes_cons (Closes.not_zero (isClosing_of_isOpening hopen)) fun i => ?_
  rw [excess_cons_of_isOpening hopen]
  omega

/-! ## The counter -/

/-- A state of the search: how many brackets are open, the quote of the run that the search is in,
if it is in one, and what is left of the text. -/
structure Search where
  depth : Nat
  quote : Option Char
  rest : List Char

/-- What comes of one turn of the search. -/
inductive Turn where
  /-- The bracket looked for has been reached. -/
  | found
  /-- The text is over. -/
  | ended
  /-- A bracket closes where none is open: the counter would go below zero. -/
  | underflow
  /-- The search goes on, so many characters further. -/
  | next (passed : Nat) (s : Search)

/-- One turn of the search. -/
def Search.turn : Search → Turn
  | ⟨_, _, []⟩ => .ended
  | ⟨depth, none, c :: cs⟩ =>
    if isOpening c then .next 1 ⟨depth + 1, none, cs⟩
    else if isClosing c then
      match depth with
      | 0 => .underflow
      | 1 => .found
      | outer + 2 => .next 1 ⟨outer + 1, none, cs⟩
    else if isQuote c then .next 1 ⟨depth, some c, cs⟩
    else .next 1 ⟨depth, none, cs⟩
  | ⟨depth, some quote, '\\' :: cs⟩ =>
    match cs with
    | [] => .ended
    | _ :: cs => .next 2 ⟨depth, some quote, cs⟩
  | ⟨depth, some quote, c :: cs⟩ => .next 1 ⟨depth, if c = quote then none else some quote, cs⟩

/-- What the search answers from a state on. -/
def Search.answer? (s : Search) : Option Nat :=
  closingOffset? s.depth s.quote s.rest

/-- What the search answers if this comes of its next turn. -/
def Turn.answer? : Turn → Option Nat
  | found => some 0
  | ended => none
  | underflow => none
  | next passed s => s.answer?.map (· + passed)

/-- The search is the loop of its turns. -/
theorem Search.answer?_eq (s : Search) : s.answer? = s.turn.answer? := by
  obtain ⟨depth, quote, rest⟩ := s
  rw [answer?]
  dsimp only
  fun_cases closingOffset? depth quote rest with
  | case1 => rw [turn, Turn.answer?]
  | case2 _ c cs hopen => simp [turn, Turn.answer?, answer?, hopen]
  | case3 c cs hopen hclose => simp [turn, Turn.answer?, hopen, hclose]
  | case4 c cs hopen hclose => simp [turn, Turn.answer?, hopen, hclose]
  | case5 c cs hopen hclose outer => simp [turn, Turn.answer?, answer?, hopen, hclose]
  | case6 _ c cs hopen hclose hquote =>
      simp [turn, Turn.answer?, answer?, hopen, hclose, hquote]
  | case7 _ c cs hopen hclose hquote =>
      simp [turn, Turn.answer?, answer?, hopen, hclose, hquote]
  | case8 => rw [turn, Turn.answer?]
  | case9 _ quote d cs => rw [turn, Turn.answer?, answer?]
  | case10 _ quote c cs hne =>
      rw [turn, Turn.answer?, answer?]
      exact hne

/-- The counter does not go below zero, and if the search goes on it is above zero. -/
def Turn.KeepsOpen : Turn → Prop
  | found => True
  | ended => True
  | underflow => False
  | next _ s => 0 < s.depth

namespace Search

/-- Inside a bracket a turn that closes the last bracket ends the search. -/
theorem keepsOpen_turn {s : Search} (h : 0 < s.depth) : s.turn.KeepsOpen := by
  fun_cases turn s with
  | case1 | case4 | case8 => trivial
  | case2 | case5 => exact Nat.succ_pos _
  | case3 => exact absurd h (Nat.lt_irrefl 0)
  | case6 | case7 | case9 | case10 => exact h

theorem keepsOpen_turn_of_isOpening (hopen : isOpening c = true) (cs : List Char) :
    (turn ⟨0, none, c :: cs⟩).KeepsOpen := by
  rw [turn, if_pos hopen]
  exact Nat.one_pos

/-- A turn leads from one state to the other. -/
def Steps (s t : Search) : Prop :=
  ∃ passed, s.turn = .next passed t

/-- The states that a search from the start of a text comes to. -/
def Reached (cs : List Char) : Search → Prop :=
  Relation.ReflTransGen Steps ⟨0, none, cs⟩

/-- From an opening bracket on, every turn keeps a bracket open. -/
theorem Reached.keepsOpen {s : Search} (hopen : isOpening c = true) (h : Reached (c :: cs) s) :
    s.turn.KeepsOpen := by
  induction h with
  | refl => exact keepsOpen_turn_of_isOpening hopen cs
  | tail _ hstep ih =>
      obtain ⟨passed, hturn⟩ := hstep
      rw [hturn] at ih
      exact keepsOpen_turn ih

theorem Reached.turn_ne_underflow {s : Search} (hopen : isOpening c = true)
    (h : Reached (c :: cs) s) : s.turn ≠ .underflow := by
  intro hturn
  have hkeeps := h.keepsOpen hopen
  rw [hturn] at hkeeps
  exact hkeeps

end Search

/-! ## The partner of a bracket -/

/-- A bracket is not read exactly if it has no partner. -/
theorem scanBracket_eq_error_iff {operandDue : Bool} {e : Fault} :
    scanBracket operandDue c cs = .error e ↔
      e = .grammar (.unterminatedBracket c) ∧ balancedEnd? (c :: cs) = none := by
  rw [scanBracket]
  cases balancedEnd? (c :: cs) with
  | none => simp [eq_comm]
  | some n =>
      dsimp only
      split <;> simp

/-- The place `i` of a text holds a closing bracket outside quoted runs, with which the number of
open brackets comes back to zero. Runs and brackets are counted from `position` on. -/
def ClosesAt (text : List Char) (position i : Nat) : Prop :=
  position ≤ i ∧ ∃ ms, Masked (text.drop position) ms ∧ Closes 0 ms (i - position)

theorem Masked.closesAt_iff {text : List Char} {position i : Nat}
    (h : Masked (text.drop position) ms) :
    ClosesAt text position i ↔ position ≤ i ∧ Closes 0 ms (i - position) := by
  constructor
  · rintro ⟨hle, ms', hms', hcloses⟩
    rw [h.unique hms'] at hcloses
    exact ⟨hle, hcloses⟩
  · rintro ⟨hle, hcloses⟩
    exact ⟨hle, ms, h, hcloses⟩

/-- The partner of an opening bracket is the least place at which a closing bracket of either kind
outside quoted runs brings the number of open brackets back to zero. The bracket is refused, as an
unterminated one, exactly if there is no such place. The search is a loop of turns, and none that
it takes from the bracket on lowers the counter where it is zero. -/
theorem balancedEnd?_isLeast {text : List Char} {position : Nat} (hc : text[position]? = some c)
    (hopen : isOpening c = true) :
    (∀ i, (balancedEnd? (text.drop position)).map (· + position) = some i ↔
      IsLeast {i | ClosesAt text position i} i) ∧
    (balancedEnd? (text.drop position) = none ↔ ∀ i, ¬ ClosesAt text position i) ∧
    (∀ operandDue e, scanBracket operandDue c (text.drop (position + 1)) = .error e ↔
      e = .grammar (.unterminatedBracket c) ∧ ∀ i, ¬ ClosesAt text position i) ∧
    balancedEnd? (text.drop position) = Search.answer? ⟨0, none, text.drop position⟩ ∧
    (∀ s : Search, s.answer? = s.turn.answer?) ∧
    (∀ s, Search.Reached (text.drop position) s → s.turn ≠ .underflow) := by
  obtain ⟨ms, hms⟩ := exists_masked (text.drop position)
  have hdrop : text.drop position = c :: text.drop (position + 1) := by
    obtain ⟨hlt, hc⟩ := List.getElem?_eq_some_iff.1 hc
    rw [List.drop_eq_getElem_cons hlt, hc]
  have hlocates : Locates {i | ClosesAt text position i}
      ((balancedEnd? (text.drop position)).map (· + position)) := by
    refine Locates.shift position ?_ fun i => hms.closesAt_iff
    rw [hdrop] at hms ⊢
    exact hms.locates_balancedEnd? hopen
  have hnone : balancedEnd? (text.drop position) = none ↔ ∀ i, ¬ ClosesAt text position i :=
    Option.map_eq_none_iff.symm.trans hlocates.eq_none_iff
  refine ⟨fun i => hlocates.eq_some_iff, hnone, ?_, rfl, Search.answer?_eq, ?_⟩
  · intro operandDue e
    rw [← hnone, hdrop]
    exact scanBracket_eq_error_iff
  · intro s hs
    rw [hdrop] at hs
    exact hs.turn_ne_underflow hopen

/-- A bracket that a brace closes, behind a run with a hidden quote and a closing bracket, a run
that ends in two backslashes, and a nested pair; and a bracket without a partner, as the run behind
it has no end. -/
theorem balancedEnd?_isLeast_quoted :
    let text := "x[\x7b'\\']', \"\x7d\\\\\"[0]]\x7d, 2[']".toList
    text[1]? = some '[' ∧ text[19]? = some '\x7d' ∧
      (balancedEnd? (text.drop 1)).map (· + 1) = some 19 ∧ IsLeast {i | ClosesAt text 1 i} 19 ∧
      text[23]? = some '[' ∧
      scanBracket true '[' (text.drop 24) = .error (.grammar (.unterminatedBracket '[')) ∧
      ∀ i, ¬ ClosesAt text 23 i := by
  intro text
  have hfirst : text[1]? = some '[' := by decide
  have hlast : text[23]? = some '[' := by decide
  have hend : (balancedEnd? (text.drop 1)).map (· + 1) = some 19 := by decide
  have hnone : balancedEnd? (text.drop 23) = none := by decide
  obtain ⟨hleast, -⟩ := balancedEnd?_isLeast hfirst rfl
  obtain ⟨-, hplace, herror, -⟩ := balancedEnd?_isLeast hlast rfl
  have hopen := hplace.1 hnone
  exact ⟨hfirst, by decide, hend, (hleast 19).1 hend, hlast, (herror true _).2 ⟨rfl, hopen⟩, hopen⟩

end Reckon.Lexeme
