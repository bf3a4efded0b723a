/-
# Reckon.Proofs.Lexeme.Reader — the reader of a lexeme

A lexeme is read by one of ten readers. Which one it is depends on the first character, and at a
slash also on whether an operand is due, but on nothing that follows (`exists_reader`). What the
readers of brackets and of captures give is said here as well.
-/
import Mathlib.Tactic.SplitIfs
import Reckon.Lexeme.Scan

namespace Reckon.Lexeme

open Text (isDigit isSmallLetter isNameChar)

/-- The readers of lexemes. -/
inductive Reader where
  | bracket | pattern | text | openParen | closeParen | comma | number | word | capture | operator

namespace Reader

/-- What a reader makes of the character `c` and what follows it. -/
def read (operandDue : Bool) (c : Char) (cs : List Char) :
    Reader → Except Fault (Lexeme × List Char)
  | bracket => scanBracket operandDue c cs
  | pattern => readAs .pattern (scanPattern cs)
  | text => readAs .text (scanText c cs)
  | openParen => .ok (.openParen, cs)
  | closeParen => .ok (.closeParen, cs)
  | comma => .ok (.comma, cs)
  | number => readAs .number (scanNumber (c :: cs))
  | word => .ok (scanWord (c :: cs))
  | capture => scanCapture cs
  | operator => scanOperator c cs

/-- The characters that lexemes of a reader start with. The reader of operators gets the rest. -/
def Starts (operandDue : Bool) (c : Char) : Reader → Prop
  | bracket => isOpening c = true
  | pattern => c = '/' ∧ operandDue = true
  | text => isQuote c = true
  | openParen => c = '('
  | closeParen => c = ')'
  | comma => c = ','
  | number => (isDigit c || c == '.') = true
  | word => isSmallLetter c = true
  | capture => c = '$'
  | operator => isOpening c = false ∧ (c = '/' → operandDue = false)

/-- The reader of the lexeme that starts with a character. -/
def of (operandDue : Bool) (c : Char) : Reader :=
  if isOpening c then bracket
  else if c == '/' && operandDue then pattern
  else if isQuote c then text
  else if c == '(' then openParen
  else if c == ')' then closeParen
  else if c == ',' then comma
  else if isDigit c || c == '.' then number
  else if isSmallLetter c then word
  else if c == '$' then capture
  else operator

theorem starts_of (operandDue : Bool) (c : Char) : (of operandDue c).Starts operandDue c := by
  unfold of
  split_ifs with hopen hslash hquote hleft hright hcomma hnumber hletter hsign
  · exact hopen
  · rwa [Bool.and_eq_true, beq_iff_eq] at hslash
  · exact hquote
  · exact beq_iff_eq.1 hleft
  · exact beq_iff_eq.1 hright
  · exact beq_iff_eq.1 hcomma
  · exact hnumber
  · exact hletter
  · exact beq_iff_eq.1 hsign
  · exact ⟨Bool.eq_false_iff.2 hopen, fun hc => by simpa [hc] using hslash⟩

end Reader

/-- A lexeme is read by the reader that its first character calls for, whatever follows. -/
theorem exists_reader (operandDue : Bool) (c : Char) :
    ∃ reader : Reader, reader.Starts operandDue c ∧
      ∀ cs, scanOne operandDue c cs = reader.read operandDue c cs := by
  refine ⟨Reader.of operandDue c, Reader.starts_of operandDue c, fun cs => ?_⟩
  unfold scanOne Reader.of
  split_ifs <;> rfl

variable {operandDue : Bool} {c : Char} {cs rest : List Char} {t : Lexeme}

/-! ## Brackets -/

/-- The lexeme of a bracket with its partner at the place `n` after it: a selector after an operand,
and else a JSON literal. -/
def bracketed (operandDue : Bool) (c : Char) (cs : List Char) (n : Nat) : Lexeme :=
  if c == '[' && !operandDue then index (String.ofList (cs.take (n - 1)))
  else json (String.ofList ((c :: cs).take (n + 1)))

theorem scanBracket_eq_ok_iff :
    scanBracket operandDue c cs = .ok (t, rest) ↔
      ∃ n, balancedEnd? (c :: cs) = some n ∧ t = bracketed operandDue c cs n ∧
        rest = cs.drop n := by
  rw [scanBracket]
  cases balancedEnd? (c :: cs) with
  | none => simp
  | some n =>
      simp only [Option.some.injEq, exists_eq_left']
      unfold bracketed
      split <;> simp [eq_comm]

/-- The characters up to the partner make the lexeme. -/
theorem bracketed_congr {ds : List Char} {n : Nat} (h : cs.take n = ds.take n) :
    bracketed operandDue c cs n = bracketed operandDue c ds n := by
  have htake : ∀ es : List Char, es.take (n - 1) = (es.take n).take (n - 1) := fun es => by
    rw [List.take_take, Nat.min_eq_left (Nat.sub_le n 1)]
  rw [bracketed, bracketed, List.take_succ_cons, List.take_succ_cons, htake cs, htake ds, h]

/-! ## Captures -/

theorem scanCapture_eq_ok_iff :
    scanCapture cs = .ok (t, rest) ↔
      cs.takeWhile isNameChar ≠ [] ∧
        t = identifier (String.ofList ('$' :: cs.takeWhile isNameChar)) ∧
        rest = cs.dropWhile isNameChar := by
  simp only [scanCapture]
  split
  · rename_i hword
    simp [List.isEmpty_iff.1 hword]
  · rename_i hword
    simp [mt List.isEmpty_iff.2 hword, eq_comm]

end Reckon.Lexeme
