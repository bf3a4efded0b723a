/-
# Reckon.Proofs.Conversion.Counter — the counter of the innermost open call

The counter of a call lies below the parenthesis that the call has opened, under whatever waits
above the parenthesis. Counting lifts this off, looks below the parenthesis, and puts everything
back. It touches the counter of the innermost open call and nothing else, and it leaves a stack as
it was if nothing is open or the innermost parenthesis belongs to no call (`increment_exact`).

A conversion counts at most once for each lexeme. So its counters do not exceed the number of
lexemes it has taken (`Conversion.count_le_length`), and a machine word holds them.
-/
import Reckon.Conversion.Formula
import Reckon.Proofs.Outcome

namespace Reckon

namespace Pending

variable {stack above : List Pending}

/-! ## Lifting and putting back -/

theorem restore_eq (lifted stack : List Pending) :
    restore lifted stack = lifted.reverse ++ stack := by
  induction lifted generalizing stack with
  | nil => rfl
  | cons entry lifted ih =>
      rw [restore, ih, List.reverse_cons, List.append_assoc, List.singleton_append]

/-- An entry that is no parenthesis is lifted, and the loop goes on. -/
theorem lift_cons {entry : Pending} (h : entry ≠ openParen) (lifted rest : List Pending) :
    lift lifted (entry :: rest) = lift (entry :: lifted) rest := by
  rw [lift]
  exact h

/-- What is no parenthesis is lifted entry by entry. -/
theorem lift_append (h : openParen ∉ above) (lifted rest : List Pending) :
    lift lifted (above ++ rest) = lift (above.reverse ++ lifted) rest := by
  induction above generalizing lifted with
  | nil => rfl
  | cons entry above ih =>
      rw [List.mem_cons, not_or] at h
      rw [List.cons_append, lift_cons (Ne.symm h.1), ih h.2, List.reverse_cons, List.append_assoc,
        List.singleton_append]

/-! ## Counting -/

/-- The topmost parenthesis of a stack and what is above and below it, if there is one. -/
theorem notMem_or_exists_append (stack : List Pending) :
    openParen ∉ stack ∨ ∃ above below, openParen ∉ above ∧ stack = above ++ openParen :: below := by
  by_cases h : openParen ∈ stack
  · obtain ⟨above, below, hstack, habove⟩ := List.eq_append_cons_of_mem h
    exact .inr ⟨above, below, habove, hstack⟩
  · exact .inl h

theorem increment_of_notMem (h : openParen ∉ stack) : increment stack = (false, stack) := by
  have hlift : lift [] stack = (stack.reverse, none) := by
    simpa [lift] using lift_append h [] []
  simp [increment, hlift, restore_eq]

theorem increment_append (h : openParen ∉ above) (below : List Pending) :
    increment (above ++ openParen :: below)
      = ((incrementTop below).1, above ++ openParen :: (incrementTop below).2) := by
  have hlift : lift [] (above ++ openParen :: below) = (above.reverse, some below) := by
    simpa [lift] using lift_append h [] (openParen :: below)
  simp [increment, hlift, restore_eq]

theorem incrementTop_eq_true_iff : (incrementTop stack).1 = true ↔
    ∃ n rest, stack = argumentCount n :: rest := by
  unfold incrementTop
  split
  · simp
  · rename_i hno
    simpa using hno

theorem incrementTop_eq_self (h : (incrementTop stack).1 = false) :
    (incrementTop stack).2 = stack := by
  unfold incrementTop at h ⊢
  split
  · cases h
  · rfl

/-- Either nothing is counted and the stack is what it was, or one counter is raised: the one below
the topmost parenthesis. -/
theorem increment_cases (stack : List Pending) :
    increment stack = (false, stack) ∨
      ∃ above n below, openParen ∉ above ∧ stack = above ++ openParen :: argumentCount n :: below ∧
        increment stack = (true, above ++ openParen :: argumentCount (n + 1) :: below) := by
  rcases notMem_or_exists_append stack with hno | ⟨above, below, habove, rfl⟩
  · exact .inl (increment_of_notMem hno)
  · rw [increment_append habove]
    cases htop : (incrementTop below).1 with
    | false => exact .inl (by rw [incrementTop_eq_self htop])
    | true =>
        obtain ⟨n, rest, rfl⟩ := incrementTop_eq_true_iff.1 htop
        exact .inr ⟨above, n, rest, habove, rfl, rfl⟩

end Pending

/-! ## Counters of a conversion -/

namespace Conversion

open Pending (argumentCount)

variable {arity? : String → Option Nat} {selector : String → Except Fault Code} {k : Nat}
  {stack : List Pending}

/-- No counter on the stack exceeds the bound. -/
def CountsUpTo (k : Nat) (stack : List Pending) : Prop :=
  ∀ n, argumentCount n ∈ stack → n ≤ k

namespace CountsUpTo

theorem mono {k' : Nat} (h : CountsUpTo k stack) (hle : k ≤ k') : CountsUpTo k' stack :=
  fun n hn => Nat.le_trans (h n hn) hle

theorem of_suffix {stack' : List Pending} (h : CountsUpTo k stack) (hsuffix : stack' <:+ stack) :
    CountsUpTo k stack' :=
  fun n hn => h n (hsuffix.subset hn)

/-- An entry that is no counter changes nothing. -/
theorem cons {entry : Pending} (h : CountsUpTo k stack) (hentry : ∀ n, entry ≠ argumentCount n) :
    CountsUpTo k (entry :: stack) := by
  intro n hn
  rcases List.mem_cons.1 hn with rfl | hn
  · exact absurd rfl (hentry n)
  · exact h n hn

theorem cons_zero (h : CountsUpTo k stack) : CountsUpTo k (argumentCount 0 :: stack) := by
  intro n hn
  rcases List.mem_cons.1 hn with hn | hn
  · cases hn
    exact Nat.zero_le k
  · exact h n hn

/-- Counting an argument raises one counter by one. -/
theorem increment (h : CountsUpTo k stack) : CountsUpTo (k + 1) (Pending.increment stack).2 := by
  rcases Pending.increment_cases stack with heq | ⟨above, m, below, -, rfl, heq⟩
  · rw [heq]
    exact h.mono (Nat.le_succ k)
  · rw [heq]
    intro n hn
    simp only [List.mem_append, List.mem_cons, reduceCtorEq, Pending.argumentCount.injEq,
      false_or] at hn
    rcases hn with hn | rfl | hn
    · exact Nat.le_succ_of_le (h n (by simp [hn]))
    · exact Nat.succ_le_succ (h m (by simp))
    · exact Nat.le_succ_of_le (h n (by simp [hn]))

end CountsUpTo

theorem release_suffix (op : Operator) (stack : List Pending) (output : List Instruction) :
    (release op stack output).1 <:+ stack := by
  fun_induction release op stack output with
  | case1 waiting stack output _ ih => exact ih.trans (List.suffix_cons _ _)
  | case2 => exact List.suffix_rfl
  | case3 => exact List.suffix_rfl

theorem unwind?_suffix {output output' : List Instruction} {stack' : List Pending}
    (h : unwind? stack output = some (stack', output')) : stack' <:+ stack := by
  fun_induction unwind? stack output with
  | case1 => cases h; exact List.suffix_cons _ _
  | case2 op stack output ih => exact (ih h).trans (List.suffix_cons _ _)
  | case3 => cases h

/-! ### One lexeme -/

variable {s s' : State}

theorem CountsUpTo.pushOperator (h : CountsUpTo k s.stack) (op : Operator) :
    CountsUpTo k (s.pushOperator op).stack :=
  (h.of_suffix (release_suffix op s.stack s.output)).cons nofun

theorem CountsUpTo.multiplyIfDone (h : CountsUpTo k s.stack) :
    CountsUpTo k s.multiplyIfDone.stack := by
  rw [State.multiplyIfDone]
  split
  · exact h
  · exact h.pushOperator .multiply

/-- What is counted for a lexeme is counted by `Pending.increment`. -/
theorem stack_of_countArgument {t : Lexeme} (h : countArgument s t = .ok s') :
    s'.stack = s.stack ∨
      ((Pending.increment s.stack).1 = true ∧ s'.stack = (Pending.increment s.stack).2) := by
  unfold Conversion.countArgument at h
  split at h
  · cases h
    exact .inl rfl
  · cases h
    exact .inl rfl
  · dsimp only at h
    split at h
    · rename_i hcounted
      cases h
      exact .inr ⟨hcounted, rfl⟩
    · cases h

theorem CountsUpTo.countArgument {t : Lexeme} (h : CountsUpTo k s.stack)
    (hcount : countArgument s t = .ok s') : CountsUpTo (k + 1) s'.stack := by
  rcases stack_of_countArgument hcount with hstack | ⟨-, hstack⟩
  · rw [hstack]
    exact h.mono (Nat.le_succ k)
  · rw [hstack]
    exact h.increment

theorem CountsUpTo.takeOperand {o : Operand} (h : CountsUpTo k s.stack)
    (htake : takeOperand s o = .ok s') : CountsUpTo k s'.stack := by
  rw [Conversion.takeOperand.eq_def] at htake
  split at htake
  · cases htake
    exact h
  · cases o <;> cases htake
    all_goals exact h.pushOperator .multiply

/-- The counter of a call starts at zero. -/
theorem CountsUpTo.takeCall (h : CountsUpTo k s.stack) (name : String) :
    CountsUpTo k (takeCall arity? s name).stack := by
  rw [Conversion.takeCall]
  dsimp only
  split
  · have hname : CountsUpTo k (.call name :: s.multiplyIfDone.stack) := h.multiplyIfDone.cons nofun
    exact hname.cons_zero.cons nofun
  · have hproduct : CountsUpTo k (s.multiplyIfDone.emit (.operand (.identifier name))).stack :=
      h.multiplyIfDone
    exact (hproduct.pushOperator .multiply).cons nofun

theorem CountsUpTo.closeParen (h : CountsUpTo k s.stack)
    (hclose : closeParen arity? s = .ok s') : CountsUpTo k s'.stack := by
  unfold Conversion.closeParen at hclose
  split at hclose
  · cases hclose
  · rename_i given name stack output hunwind
    have hstack := h.of_suffix (unwind?_suffix hunwind)
    split at hclose
    · cases hclose
    · split at hclose
      · cases hclose
        exact hstack.of_suffix ⟨[_, _], rfl⟩
      · cases hclose
  · cases hclose
  · rename_i stack output _ _ hunwind
    cases hclose
    exact h.of_suffix (unwind?_suffix hunwind)

theorem CountsUpTo.takeClose {afterCallOpen : Bool} (h : CountsUpTo k s.stack)
    (htake : takeClose arity? afterCallOpen s = .ok s') : CountsUpTo k s'.stack := by
  rw [Conversion.takeClose] at htake
  split at htake
  · cases htake
  · obtain ⟨closed, hclosed, heq⟩ := Outcome.bind_eq_ok_iff.1 htake
    have hstack := h.closeParen hclosed
    cases heq
    exact hstack

theorem CountsUpTo.takeComma (h : CountsUpTo k s.stack) (htake : takeComma s = .ok s') :
    CountsUpTo k s'.stack := by
  rw [Conversion.takeComma] at htake
  split at htake
  · cases htake
  · split at htake
    · rename_i hunwind
      cases htake
      exact (h.of_suffix (unwind?_suffix hunwind)).cons nofun
    · cases htake

theorem CountsUpTo.takeOperator {op : Operator} (h : CountsUpTo k s.stack)
    (htake : takeOperator s op = .ok s') : CountsUpTo k s'.stack := by
  rw [Conversion.takeOperator] at htake
  split at htake
  · cases htake
    exact h.cons nofun
  split at htake
  · split at htake
    · cases htake
      exact h.cons nofun
    · cases htake
  split at htake
  · cases htake
  · cases htake
    exact h.pushOperator op

theorem CountsUpTo.takeIndex {raw : String} (h : CountsUpTo k s.stack)
    (htake : takeIndex selector s raw = .ok s') : CountsUpTo k s'.stack := by
  rw [Conversion.takeIndex] at htake
  split at htake
  · cases htake
  split at htake
  · cases htake
  · obtain ⟨body, -, heq⟩ := Outcome.bind_eq_ok_iff.1 htake
    cases heq
    exact h

/-- A lexeme raises no counter by more than one. -/
theorem CountsUpTo.step {t : Lexeme} (h : CountsUpTo k s.stack)
    (hstep : step arity? selector s t = .ok s') : CountsUpTo (k + 1) s'.stack := by
  obtain ⟨counted, hcount, htaken⟩ := Outcome.bind_eq_ok_iff.1 hstep
  have hstack := h.countArgument hcount
  have hcounted : CountsUpTo (k + 1) { counted with mark := .none }.stack := hstack
  cases t with
  | number x => exact hcounted.takeOperand htaken
  | text v => exact hcounted.takeOperand htaken
  | json raw => exact hcounted.takeOperand htaken
  | pattern raw => exact hcounted.takeOperand htaken
  | identifier name => exact hcounted.takeOperand htaken
  | call name =>
      cases htaken
      exact hcounted.takeCall name
  | openParen =>
      cases htaken
      exact hcounted.multiplyIfDone.cons nofun
  | closeParen => exact hcounted.takeClose htaken
  | comma => exact hcounted.takeComma htaken
  | operator op => exact hcounted.takeOperator htaken
  | index raw => exact hcounted.takeIndex htaken

/-! ### Whole formulas -/

theorem CountsUpTo.foldlM {ts : List Lexeme} (h : CountsUpTo k s.stack)
    (hfold : ts.foldlM (Conversion.step arity? selector) s = .ok s') :
    CountsUpTo (k + ts.length) s'.stack := by
  induction ts generalizing s k with
  | nil =>
      cases hfold
      exact h
  | cons t ts ih =>
      rw [List.foldlM_cons] at hfold
      obtain ⟨next, hstep, hrest⟩ := Outcome.bind_eq_ok_iff.1 hfold
      have hcounts := ih (h.step hstep) hrest
      rw [List.length_cons]
      exact hcounts.mono (by omega)

/-- No counter of a conversion exceeds the number of lexemes that have been taken. -/
theorem count_le_length {ts : List Lexeme} {n : Nat}
    (h : ts.foldlM (step arity? selector) {} = .ok s) (hn : argumentCount n ∈ s.stack) :
    n ≤ ts.length := by
  have hstart : CountsUpTo 0 ({} : State).stack := nofun
  have hle := hstart.foldlM h n hn
  rwa [Nat.zero_add] at hle

end Conversion

/-! ## The counter -/

namespace Pending

/-- An argument is counted exactly if there is an open parenthesis and the entry below the topmost
one is a counter. Then this counter is one larger, and every other entry is where it was. Otherwise
the stack is what it was. A conversion counts in no other way, and the counters on its stack do not
exceed the number of lexemes it has taken. -/
theorem increment_exact (stack : List Pending) :
    ((increment stack).1 = true ↔ ∃ above n below,
      openParen ∉ above ∧ stack = above ++ openParen :: argumentCount n :: below) ∧
    (∀ above n below, openParen ∉ above →
      stack = above ++ openParen :: argumentCount n :: below →
      (increment stack).2 = above ++ openParen :: argumentCount (n + 1) :: below) ∧
    ((increment stack).1 = false → (increment stack).2 = stack) ∧
    (∀ (s s' : Conversion.State) (t : Lexeme), s.stack = stack →
      Conversion.countArgument s t = .ok s' →
      s'.stack = stack ∨ ∃ above n below,
        openParen ∉ above ∧ stack = above ++ openParen :: argumentCount n :: below ∧
        s'.stack = above ++ openParen :: argumentCount (n + 1) :: below) ∧
    (∀ arity? selector (ts : List Lexeme) (s : Conversion.State),
      ts.foldlM (Conversion.step arity? selector) {} = .ok s → s.stack = stack →
      ∀ n, argumentCount n ∈ stack → n ≤ ts.length) := by
  have hcases := increment_cases stack
  refine ⟨⟨?_, ?_⟩, ?_, ?_, ?_, ?_⟩
  · intro h
    rcases hcases with heq | ⟨above, n, below, habove, hstack, -⟩
    · rw [heq] at h
      cases h
    · exact ⟨above, n, below, habove, hstack⟩
  · rintro ⟨above, n, below, habove, rfl⟩
    rw [increment_append habove]
    rfl
  · rintro above n below habove rfl
    rw [increment_append habove]
    rfl
  · intro h
    rcases hcases with heq | ⟨above, n, below, -, -, heq⟩
    · rw [heq]
    · rw [heq] at h
      cases h
  · rintro s s' t rfl hcount
    rcases Conversion.stack_of_countArgument hcount with hsame | ⟨htrue, hcounted⟩
    · exact .inl hsame
    · rcases hcases with heq | ⟨above, n, below, habove, hstack, heq⟩
      · rw [heq] at htrue
        cases htrue
      · exact .inr ⟨above, n, below, habove, hstack, by rw [hcounted, heq]⟩
  · rintro arity? selector ts s hfold rfl n hn
    exact Conversion.count_le_length hfold hn

/-- Two calls are open, and operators wait above the inner one: its counter is the one that is
raised. Behind a parenthesis that belongs to no call nothing is counted. -/
theorem increment_exact_nested :
    let outer : List Pending := [openParen, argumentCount 1, call "f"]
    let inner : List Pending := openParen :: argumentCount 2 :: call "g" :: outer
    let waiting : List Pending := [operator .negate, operator .add]
    increment (waiting ++ inner)
        = (true, waiting ++ openParen :: argumentCount 3 :: call "g" :: outer) ∧
      increment (waiting ++ openParen :: inner) = (false, waiting ++ openParen :: inner) := by
  intro outer inner waiting
  have hwaiting : openParen ∉ waiting := by decide
  obtain ⟨hcounted, hraised, -⟩ := increment_exact (waiting ++ inner)
  obtain ⟨-, -, hkept, -⟩ := increment_exact (waiting ++ openParen :: inner)
  refine ⟨Prod.ext ?_ ?_, Prod.ext ?_ ?_⟩
  · exact hcounted.2 ⟨waiting, 2, call "g" :: outer, hwaiting, rfl⟩
  · exact hraised waiting 2 (call "g" :: outer) hwaiting rfl
  · rfl
  · exact hkept rfl

end Pending

end Reckon
