/-
# Reckon.Proofs.Conversion.Position — where operands are due

The scanner and the conversion both keep track of whether an operand is due, each in its own
way: the scanner looks at the last lexeme, the conversion decides anew for every kind of lexeme.
Whatever the conversion does with a lexeme, it ends up with what the scanner says
(`operandDue_of_step`), so the two agree after every prefix that the conversion takes.

The scanner reads slashes and square brackets by that (`Lexeme.InRole`). What the conversion is
given is therefore what its position demands: it never finds a selector where an operand is due,
and never a pattern where none is.
-/
import Reckon.Proofs.Conversion.Faults

namespace Reckon

open Outcome (Raises raises_ok raises_error)

/-! ## What the scanner reads where -/

namespace Lexeme

open Text (isBlank isDigit isSmallLetter isNameChar)

/-- The lexeme, which starts with `c`, is one that such a character is read as where an operand
is due, or where none is: a slash opens a pattern or divides, and a square bracket opens a JSON
literal or a selector. A brace opens a JSON literal in any case. -/
def InRole (operandDue : Bool) (c : Char) : Lexeme → Prop
  | pattern _ => c = '/' ∧ operandDue = true
  | operator .divide => c = '/' ∧ operandDue = false
  | index _ => c = '[' ∧ operandDue = false
  | json raw => raw.toList.head? = some c ∧ c ≠ '/' ∧ (c = '[' → operandDue = true)
  | _ => c ≠ '/' ∧ c ≠ '[' ∧ c ≠ '{'

variable {operandDue : Bool} {c : Char} {cs after : List Char} {t : Lexeme}

theorem scanBracket_inRole (hopen : isOpening c = true)
    (h : scanBracket operandDue c cs = .ok (t, after)) : t.InRole operandDue c := by
  have hslash : c ≠ '/' := Text.ne_of_class hopen (by decide)
  obtain ⟨n, -, rfl, -⟩ := scanBracket_eq_ok_iff.1 h
  unfold bracketed
  split
  · rename_i hindex
    simpa [InRole] using hindex
  · rename_i hindex
    refine ⟨by simp, hslash, fun hc => ?_⟩
    simpa [hc] using hindex

theorem scanWord_inRole (hletter : isSmallLetter c = true) :
    (scanWord (c :: cs)).1.InRole operandDue c := by
  have hslash : c ≠ '/' := Text.ne_of_class hletter (by decide)
  have hsquare : c ≠ '[' := Text.ne_of_class hletter (by decide)
  have hbrace : c ≠ '{' := Text.ne_of_class hletter (by decide)
  have hname : isNameChar c = true := by
    simp [isNameChar, Text.isLetter, hletter]
  cases hword : reservedWords.contains (String.ofList ((c :: cs).takeWhile isNameChar)) with
  | true =>
      rw [scanWord_of_reserved hword]
      refine ⟨?_, hslash, fun hc => absurd hc hsquare⟩
      rw [String.toList_ofList, List.takeWhile_cons_of_pos hname]
      rfl
  | false =>
      by_cases hcall : ∃ after, (c :: cs).dropWhile isNameChar = '(' :: after
      · obtain ⟨after, hafter⟩ := hcall
        rw [scanWord_of_call hword hafter]
        exact ⟨hslash, hsquare, hbrace⟩
      · rw [scanWord_of_identifier hword fun after hafter => hcall ⟨after, hafter⟩]
        exact ⟨hslash, hsquare, hbrace⟩

theorem scanOperator_inRole (hopen : isOpening c = false) (hdue : c = '/' → operandDue = false)
    (h : scanOperator c cs = .ok (t, after)) : t.InRole operandDue c := by
  unfold scanOperator at h
  split at h <;> cases h
  all_goals first | exact ⟨rfl, hdue rfl⟩ | exact ⟨by decide, by decide, by decide⟩

/-- Every lexeme is read in the role that its place demands. -/
theorem scanOne_inRole (h : scanOne operandDue c cs = .ok (t, after)) :
    t.InRole operandDue c := by
  obtain ⟨reader, hstart, hread⟩ := exists_reader operandDue c
  rw [hread] at h
  cases reader with
  | bracket => exact scanBracket_inRole hstart h
  | pattern =>
      obtain ⟨raw, -, rfl⟩ := readAs_eq_ok_iff.1 h
      exact hstart
  | text =>
      obtain ⟨s, -, rfl⟩ := readAs_eq_ok_iff.1 h
      exact ⟨Text.ne_of_class hstart (by decide), Text.ne_of_class hstart (by decide),
        Text.ne_of_class hstart (by decide)⟩
  | openParen | closeParen | comma =>
      cases hstart
      cases h
      exact ⟨by decide, by decide, by decide⟩
  | number =>
      obtain ⟨x, -, rfl⟩ := readAs_eq_ok_iff.1 h
      have hne : ∀ d, (isDigit d || d == '.') = false → c ≠ d := fun d hd =>
        Text.ne_of_class (p := fun c => isDigit c || c == '.') hstart hd
      exact ⟨hne '/' (by decide), hne '[' (by decide), hne '{' (by decide)⟩
  | word =>
      have hrole := @scanWord_inRole operandDue c cs hstart
      rwa [Except.ok.inj h] at hrole
  | capture =>
      cases hstart
      obtain ⟨-, rfl, -⟩ := scanCapture_eq_ok_iff.1 h
      exact ⟨by decide, by decide, by decide⟩
  | operator => exact scanOperator_inRole hstart.1 hstart.2 h

/-- `ReadsTo due cs ts due' rest`: reading the lexemes `ts` leads from the text `cs`, at whose
start an operand is due as `due` says, to its end `rest`, where one is due as `due'` says. -/
inductive ReadsTo : Bool → List Char → List Lexeme → Bool → List Char → Prop
  | refl (due : Bool) (cs : List Char) : ReadsTo due cs [] due cs
  | next {due due' : Bool} {cs tail after rest : List Char} {c : Char} {t : Lexeme}
      {ts : List Lexeme} :
      cs.dropWhile isBlank = c :: tail → scanOne due c tail = .ok (t, after) →
      ReadsTo (!t.endsOperand) after ts due' rest → ReadsTo due cs (t :: ts) due' rest

/-- The scanner reads any prefix of its lexemes, and then the lexemes that are left. -/
theorem exists_readsTo_of_scanFrom {due : Bool} {cs : List Char} {us vs : List Lexeme}
    (h : scanFrom due cs = .ok (us ++ vs)) :
    ∃ rest, ReadsTo due cs us (dueAfter due us) rest ∧
      scanFrom (dueAfter due us) rest = .ok vs := by
  induction us generalizing due cs with
  | nil => exact ⟨cs, .refl due cs, h⟩
  | cons t us ih =>
      obtain ⟨c, tail, after, hcs, ht, hafter⟩ := scanFrom_eq_cons_iff.1 h
      obtain ⟨rest, hreads, hrest⟩ := ih hafter
      exact ⟨rest, .next hcs ht hreads, hrest⟩

/-- Whether an operand is due depends on the last lexeme only. -/
theorem dueAfter_eq_true_iff (ts : List Lexeme) :
    dueAfter true ts = true ↔ ∀ t ∈ ts.getLast?, t.endsOperand = false := by
  rcases List.eq_nil_or_concat ts with rfl | ⟨us, t, rfl⟩
  · simp [dueAfter]
  · simp [dueAfter]

end Lexeme

/-! ## What the conversion keeps track of -/

/-- The faults of a lexeme in the role of another place: a selector where an operand is due, and
a pattern where none is. -/
def Fault.isMisplaced : Fault → Bool
  | grammar .unexpectedBracket | grammar (.unexpectedOperand .pattern) => true
  | _ => false

theorem Fault.isMisplaced_of_isLexical {e : Fault} (h : e.isLexical = true) :
    e.isMisplaced = false := by
  cases e with
  | grammar cause =>
      cases cause with
      | unexpectedOperand kind => cases h
      | unexpectedBracket => cases h
      | _ => rfl
  | _ => rfl

namespace Conversion

/-- If the result is a fault, no lexeme stands in the role of another place. -/
abbrev WellPlaced {α : Type} (x : Except Fault α) : Prop :=
  Raises (fun e => e.isMisplaced = false) x

variable {arity? : String → Option Nat} {selector : String → Except Fault Code}

@[simp] theorem operandDue_emit (s : State) (i : Instruction) :
    (s.emit i).operandDue = s.operandDue := rfl

@[simp] theorem operandDue_pushOperator (s : State) (op : Operator) :
    (s.pushOperator op).operandDue = s.operandDue := rfl

theorem operandDue_takeOperand {s s' : State} {o : Operand} (h : takeOperand s o = .ok s') :
    s'.operandDue = false := by
  rw [takeOperand.eq_def] at h
  split at h
  · cases h
    rfl
  · rename_i hdue
    cases o <;> cases h
    all_goals simpa using hdue

theorem operandDue_takeCall (s : State) (name : String) :
    (takeCall arity? s name).operandDue = true := by
  rw [takeCall]
  dsimp only
  split
  · rfl
  · rfl

theorem operandDue_takeClose {s s' : State} {afterCallOpen : Bool}
    (h : takeClose arity? afterCallOpen s = .ok s') : s'.operandDue = false := by
  rw [takeClose] at h
  split at h
  · cases h
  · obtain ⟨closed, -, heq⟩ := Outcome.bind_eq_ok_iff.1 h
    cases heq
    rfl

theorem operandDue_takeComma {s s' : State} (h : takeComma s = .ok s') :
    s'.operandDue = true := by
  rw [takeComma] at h
  split at h
  · cases h
  · split at h
    · cases h
      rfl
    · cases h

theorem operandDue_takeOperator {s s' : State} {op : Operator}
    (h : takeOperator s op = .ok s') : s'.operandDue = true := by
  rw [takeOperator] at h
  split at h
  · rename_i hsign
    cases h
    exact hsign.2
  split at h
  · split at h
    · rename_i hdue
      cases h
      exact hdue
    · cases h
  split at h
  · cases h
  · cases h
    rfl

theorem operandDue_takeIndex {s s' : State} {raw : String}
    (h : takeIndex selector s raw = .ok s') : s'.operandDue = false := by
  rw [takeIndex] at h
  split at h
  · cases h
  rename_i hdue
  split at h
  · cases h
  · obtain ⟨body, -, heq⟩ := Outcome.bind_eq_ok_iff.1 h
    cases heq
    simpa using hdue

/-- Whatever the conversion does with a lexeme, an operand is due after it exactly if the lexeme
ends none. -/
theorem operandDue_of_step {s s' : State} {t : Lexeme}
    (h : step arity? selector s t = .ok s') : s'.operandDue = !t.endsOperand := by
  obtain ⟨counted, -, htaken⟩ := Outcome.bind_eq_ok_iff.1 h
  cases t with
  | number x => exact operandDue_takeOperand htaken
  | text v => exact operandDue_takeOperand htaken
  | json raw => exact operandDue_takeOperand htaken
  | pattern raw => exact operandDue_takeOperand htaken
  | identifier name => exact operandDue_takeOperand htaken
  | call name =>
      cases htaken
      exact operandDue_takeCall _ name
  | openParen =>
      cases htaken
      rfl
  | closeParen => exact operandDue_takeClose htaken
  | comma => exact operandDue_takeComma htaken
  | operator op => exact operandDue_takeOperator htaken
  | index raw => exact operandDue_takeIndex htaken

/-- After any prefix that the conversion takes, the conversion and the scanner agree. -/
theorem operandDue_of_foldlM {ts : List Lexeme} {s s' : State}
    (h : ts.foldlM (step arity? selector) s = .ok s') :
    s'.operandDue = Lexeme.dueAfter s.operandDue ts := by
  induction ts generalizing s with
  | nil =>
      cases h
      rfl
  | cons t ts ih =>
      rw [List.foldlM_cons] at h
      obtain ⟨next, hstep, hrest⟩ := Outcome.bind_eq_ok_iff.1 h
      rw [ih hrest, operandDue_of_step hstep]
      rfl

/-! ## No lexeme is misplaced -/

theorem countArgument_wellPlaced (s : State) (t : Lexeme) : WellPlaced (countArgument s t) := by
  unfold countArgument
  split
  · exact raises_ok s
  · exact raises_ok s
  · dsimp only
    split
    · exact raises_ok _
    · exact raises_error rfl

/-- Counting an argument leaves alone whether an operand is due. -/
theorem operandDue_countArgument {s s' : State} {t : Lexeme} (h : countArgument s t = .ok s') :
    s'.operandDue = s.operandDue := by
  unfold countArgument at h
  split at h
  · cases h
    rfl
  · cases h
    rfl
  · dsimp only at h
    split at h
    · cases h
      rfl
    · cases h

theorem takeOperand_wellPlaced {s : State} {o : Operand}
    (h : ∀ raw, o = .pattern raw → s.operandDue = true) : WellPlaced (takeOperand s o) := by
  rw [takeOperand.eq_def]
  split
  · exact raises_ok _
  · rename_i hdue
    cases o with
    | pattern raw => exact absurd (h raw rfl) hdue
    | number x => exact raises_ok _
    | identifier name => exact raises_ok _
    | text v => exact raises_error rfl
    | json raw => exact raises_error rfl
    | value v => exact raises_error rfl

theorem closeParen_wellPlaced (s : State) : WellPlaced (closeParen arity? s) := by
  unfold closeParen
  split
  · exact raises_error rfl
  · split
    · exact raises_error rfl
    · split
      · exact raises_ok _
      · exact raises_error rfl
  · exact raises_error rfl
  · exact raises_ok _

theorem takeClose_wellPlaced (afterCallOpen : Bool) (s : State) :
    WellPlaced (takeClose arity? afterCallOpen s) := by
  rw [takeClose]
  split
  · exact raises_error rfl
  · exact (closeParen_wellPlaced s).bind fun closed _ => raises_ok _

theorem takeComma_wellPlaced (s : State) : WellPlaced (takeComma s) := by
  rw [takeComma]
  split
  · exact raises_error rfl
  · split
    · exact raises_ok _
    · exact raises_error rfl

theorem takeOperator_wellPlaced (s : State) (op : Operator) : WellPlaced (takeOperator s op) := by
  unfold takeOperator
  split
  · exact raises_ok _
  split
  · split
    · exact raises_ok _
    · exact raises_error rfl
  split
  · exact raises_error rfl
  · exact raises_ok _

theorem takeIndex_wellPlaced (hselector : ∀ raw, WellPlaced (selector raw)) {s : State}
    (hdue : s.operandDue = false) (raw : String) : WellPlaced (takeIndex selector s raw) := by
  rw [takeIndex, hdue]
  split
  · contradiction
  split
  · exact raises_error rfl
  · exact (hselector raw).bind fun body _ => raises_ok _

/-- A lexeme that was read where the conversion is now is not misplaced. -/
theorem step_wellPlaced (hselector : ∀ raw, WellPlaced (selector raw)) {s : State} {c : Char}
    {t : Lexeme} (h : t.InRole s.operandDue c) : WellPlaced (step arity? selector s t) := by
  refine (countArgument_wellPlaced s t).bind fun counted hcount => ?_
  rw [← operandDue_countArgument hcount] at h
  cases t with
  | number x => exact takeOperand_wellPlaced nofun
  | text v => exact takeOperand_wellPlaced nofun
  | json raw => exact takeOperand_wellPlaced nofun
  | pattern raw => exact takeOperand_wellPlaced fun _ _ => h.2
  | identifier name => exact takeOperand_wellPlaced nofun
  | call name => exact raises_ok _
  | openParen => exact raises_ok _
  | closeParen => exact takeClose_wellPlaced _ _
  | comma => exact takeComma_wellPlaced _
  | operator op => exact takeOperator_wellPlaced _ op
  | index raw =>
      refine takeIndex_wellPlaced hselector ?_ raw
      exact h.2

/-- No lexeme is misplaced for a conversion that takes the lexemes of a text from where the
scanner has read them. -/
theorem foldlM_wellPlaced (hselector : ∀ raw, WellPlaced (selector raw)) {s : State}
    {cs : List Char} {ts : List Lexeme} (h : Lexeme.scanFrom s.operandDue cs = .ok ts) :
    WellPlaced (ts.foldlM (step arity? selector) s) := by
  induction ts generalizing s cs with
  | nil => exact raises_ok s
  | cons t ts ih =>
      obtain ⟨c, tail, after, -, ht, hafter⟩ := Lexeme.scanFrom_eq_cons_iff.1 h
      rw [List.foldlM_cons]
      refine (step_wellPlaced hselector (Lexeme.scanOne_inRole ht)).bind fun next hstep => ?_
      rw [← operandDue_of_step hstep] at hafter
      exact ih hafter

theorem flush_wellPlaced (stack : List Pending) (output : List Instruction) :
    WellPlaced (flush stack output) := by
  induction stack generalizing output with
  | nil => exact raises_ok output
  | cons p stack ih =>
      cases p with
      | operator op => exact ih _
      | openParen => exact raises_error rfl
      | call name => exact raises_error rfl
      | argumentCount n => exact raises_error rfl

theorem finish_wellPlaced (s : State) : WellPlaced (finish s) := by
  rw [finish]
  split
  · exact raises_error rfl
  · exact (flush_wellPlaced s.stack s.output).bind fun output _ => raises_ok _

/-- No lexeme of a text is misplaced, if none is in the selectors. -/
theorem convertText_wellPlaced (hselector : ∀ raw, WellPlaced (selector raw)) (source : String) :
    WellPlaced (Lexeme.scan source >>= convertLexemes arity? selector) := by
  refine Raises.bind ((Lexeme.scan_lexical source).mono fun _ => Fault.isMisplaced_of_isLexical)
    fun ts hts => ?_
  rw [convertLexemes]
  split
  · exact raises_error rfl
  · exact (foldlM_wellPlaced (s := {}) hselector hts).bind fun s _ => finish_wellPlaced s

theorem convertSelector_wellPlaced (limit budget : Nat) (raw : String) :
    WellPlaced (convertSelector arity? limit budget raw) := by
  induction budget generalizing raw with
  | zero => exact raises_error rfl
  | succ budget ih => exact convertText_wellPlaced ih raw

/-- The scanner and the conversion agree on where operands are due, in formulas as in the
contents of selectors: after any prefix of the lexemes that is taken, both say that one is due
exactly if there is no lexeme before or the last one ends no operand. The next lexeme is
therefore read in the role that the conversion demands: a slash or a square bracket is never
taken for what it is in other places. -/
theorem operandDue_agrees (arity? : String → Option Nat) (limit : Nat) (source : String) :
    (∀ (budget : Nat) (us vs : List Lexeme) (s : State),
      Lexeme.scan source = .ok (us ++ vs) →
      us.foldlM (step arity? (convertSelector arity? limit budget)) {} = .ok s →
      (s.operandDue = true ↔ ∀ t ∈ us.getLast?, t.endsOperand = false) ∧
        ∃ rest, Lexeme.ReadsTo true source.toList us s.operandDue rest ∧
          Lexeme.scanFrom s.operandDue rest = .ok vs ∧
          ∀ t ∈ vs.head?, ∃ c ∈ (rest.dropWhile Text.isBlank).head?, t.InRole s.operandDue c) ∧
    (∀ e, Code.ofFormula arity? limit source = .error e → e.isMisplaced = false) ∧
    ∀ budget e, convertSelector arity? limit budget source = .error e → e.isMisplaced = false := by
  refine ⟨?_, convertText_wellPlaced (convertSelector_wellPlaced limit limit) source, ?_⟩
  · intro budget us vs s hscan htaken
    have hdue : s.operandDue = Lexeme.dueAfter true us := operandDue_of_foldlM htaken
    obtain ⟨rest, hreads, hrest⟩ := Lexeme.exists_readsTo_of_scanFrom hscan
    rw [hdue]
    refine ⟨Lexeme.dueAfter_eq_true_iff us, rest, hreads, hrest, ?_⟩
    intro t ht
    obtain ⟨vs', rfl⟩ := List.head?_eq_some_iff.1 ht
    obtain ⟨c, tail, after, hcs, hone, -⟩ := Lexeme.scanFrom_eq_cons_iff.1 hrest
    exact ⟨c, by rw [hcs]; rfl, Lexeme.scanOne_inRole hone⟩
  · intro budget
    exact convertSelector_wellPlaced limit budget source

end Conversion

end Reckon
