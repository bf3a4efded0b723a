/-
# Reckon.Lexeme.Scan — from text to lexemes

`scanOne` reads one lexeme from a text that starts with it; `scan` reads a whole formula,
dropping the white space between lexemes. The one thing the scanner remembers between
lexemes is whether an operand is due, which is so at the start and after every lexeme that
does not end an operand.
-/
import Reckon.Lexeme.Basic
import Reckon.Lexeme.Bracket
import Reckon.Lexeme.Literal

namespace Reckon.Lexeme

open Reckon.Text (isBlank isDigit isNameChar isSmallLetter length_dropWhile_le)

/-- The words that are JSON literals and never names. -/
def reservedWords : List String :=
  ["null", "true", "false"]

/-- Reads a word: a reserved one is a literal, even before a parenthesis; one directly
before a parenthesis is a call, and takes the parenthesis with it. -/
def scanWord (cs : List Char) : Lexeme × List Char :=
  let word := String.ofList (cs.takeWhile isNameChar)
  let rest := cs.dropWhile isNameChar
  if reservedWords.contains word then (json word, rest)
  else
    match rest with
    | '(' :: rest => (call word, rest)
    | rest => (identifier word, rest)

/-- Reads the name of a capture after its dollar sign. -/
def scanCapture (cs : List Char) : Except Fault (Lexeme × List Char) :=
  let word := cs.takeWhile isNameChar
  if word.isEmpty then .error (.grammar (.illegalCharacter '$'))
  else .ok (identifier (String.ofList ('$' :: word)), cs.dropWhile isNameChar)

/-- Reads an operator; two characters that make one are never read as two. -/
def scanOperator (c : Char) (cs : List Char) : Except Fault (Lexeme × List Char) :=
  match c, cs with
  -- the pairs come first, so that `a<=b` is one comparison
  | '>', '=' :: rest => .ok (operator .greaterEqual, rest)
  | '<', '=' :: rest => .ok (operator .lessEqual, rest)
  | '=', '=' :: rest => .ok (operator .equal, rest)
  | '!', '=' :: rest => .ok (operator .notEqual, rest)
  | '=', '~' :: rest => .ok (operator .matching, rest)
  | '&', '&' :: rest => .ok (operator .and, rest)
  | '|', '|' :: rest => .ok (operator .or, rest)
  | '+', rest => .ok (operator .add, rest)
  | '-', rest => .ok (operator .subtract, rest)
  | '*', rest => .ok (operator .multiply, rest)
  | '/', rest => .ok (operator .divide, rest)
  | '^', rest => .ok (operator .power, rest)
  | '%', rest => .ok (operator .modulo, rest)
  | '>', rest => .ok (operator .greater, rest)
  | '<', rest => .ok (operator .less, rest)
  | '!', rest => .ok (operator .not, rest)
  | _, _ => .error (.grammar (.illegalCharacter c))

/-- Reads a JSON literal or a selector, which starts with the bracket `c`. -/
def scanBracket (operandDue : Bool) (c : Char) (cs : List Char) :
    Except Fault (Lexeme × List Char) :=
  match balancedEnd? (c :: cs) with
  | none => .error (.grammar (.unterminatedBracket c))
  | some n =>
    -- `n` counts from the bracket itself, which is not part of `cs`
    if c == '[' && !operandDue then .ok (index (String.ofList (cs.take (n - 1))), cs.drop n)
    else .ok (json (String.ofList ((c :: cs).take (n + 1))), cs.drop n)

/-- A lexeme built from what a reader has read. -/
def readAs {α : Type} (build : α → Lexeme) :
    Except Fault (α × List Char) → Except Fault (Lexeme × List Char)
  | .ok (a, rest) => .ok (build a, rest)
  | .error e => .error e

/-- Reads the lexeme that starts with the character `c`, which is no blank. -/
def scanOne (operandDue : Bool) (c : Char) (cs : List Char) :
    Except Fault (Lexeme × List Char) :=
  if isOpening c then scanBracket operandDue c cs
  -- a slash after an operand is left to the operators
  else if c == '/' && operandDue then readAs pattern (scanPattern cs)
  else if isQuote c then readAs text (scanText c cs)
  else if c == '(' then .ok (openParen, cs)
  else if c == ')' then .ok (closeParen, cs)
  else if c == ',' then .ok (comma, cs)
  else if isDigit c || c == '.' then readAs number (scanNumber (c :: cs))
  else if isSmallLetter c then .ok (scanWord (c :: cs))
  else if c == '$' then scanCapture cs
  else scanOperator c cs

/-- A lexeme has been read exactly if what it is built from has. -/
theorem readAs_eq_ok_iff {α : Type} {build : α → Lexeme} {r : Except Fault (α × List Char)}
    {t : Lexeme} {rest : List Char} :
    readAs build r = .ok (t, rest) ↔ ∃ a, r = .ok (a, rest) ∧ build a = t := by
  cases r with
  | error e => simp [readAs]
  | ok p =>
    obtain ⟨a, rest'⟩ := p
    simp only [readAs, Except.ok.injEq, Prod.mk.injEq]
    constructor
    · rintro ⟨rfl, rfl⟩
      exact ⟨a, ⟨rfl, rfl⟩, rfl⟩
    · rintro ⟨a', ⟨rfl, rfl⟩, rfl⟩
      exact ⟨rfl, rfl⟩

/-! ## Every lexeme uses up text -/

theorem length_splitAtStop? {stop : Char} {cs body rest : List Char}
    (h : splitAtStop? stop cs = some (body, rest)) : rest.length < cs.length := by
  fun_induction splitAtStop? stop cs generalizing body rest with
  | case1 => cases h
  | case2 => cases h
  | case3 c cs ih =>
    simp only [Option.map_eq_some_iff, Prod.exists, Prod.mk.injEq] at h
    obtain ⟨_, r, hr, _, rfl⟩ := h
    have := ih hr
    simp only [List.length_cons]
    omega
  | case4 =>
    cases h
    simp
  | case5 c cs _ _ ih =>
    simp only [Option.map_eq_some_iff, Prod.exists, Prod.mk.injEq] at h
    obtain ⟨_, r, hr, _, rfl⟩ := h
    have := ih hr
    simp only [List.length_cons]
    omega

theorem length_scanPattern {cs rest : List Char} {s : String}
    (h : scanPattern cs = .ok (s, rest)) : rest.length < cs.length := by
  unfold scanPattern at h
  split at h
  · cases h
  · cases h
  · rename_i body r _ hs
    have := length_splitAtStop? hs
    simp only [Except.ok.injEq, Prod.mk.injEq] at h
    have hle := length_dropWhile_le Text.isLetter r
    rw [h.2] at hle
    omega

theorem length_scanText {quote : Char} {cs rest : List Char} {s : String}
    (h : scanText quote cs = .ok (s, rest)) : rest.length < cs.length := by
  unfold scanText at h
  split at h
  · cases h
  · rename_i raw r hs
    have := length_splitAtStop? hs
    split at h
    · cases h
    · simp only [Except.ok.injEq, Prod.mk.injEq] at h
      exact h.2 ▸ this

theorem length_splitFraction_le (cs : List Char) :
    (splitFraction cs).2.length ≤ cs.length := by
  unfold splitFraction
  split
  · have := length_dropWhile_le isDigit
    exact Nat.le_succ_of_le (this _)
  · exact Nat.le_refl _

theorem length_splitExponent_le (cs : List Char) :
    (splitExponent cs).2.length ≤ cs.length := by
  unfold splitExponent
  split
  · exact Nat.le_refl _
  · split
    · split
      · exact Nat.le_refl _
      · rename_i s ds
        have h1 := length_dropWhile_le isDigit ds
        have h2 := length_dropWhile_le isDigit (s :: ds)
        split
        · split
          · exact Nat.le_refl _
          · simp only [List.length_cons]
            omega
        · split
          · simp only [List.length_cons] at h2 ⊢
            omega
          · exact Nat.le_refl _
    · exact Nat.le_refl _

/-- A number literal has at least one character: the digit or the point it starts with. -/
theorem length_splitNumeral {c : Char} {cs : List Char} (hc : (isDigit c || c == '.') = true) :
    (splitNumeral (c :: cs)).2.length < (c :: cs).length := by
  have h : (splitFraction ((c :: cs).dropWhile isDigit)).2.length < (c :: cs).length := by
    cases hd : isDigit c with
    | true =>
      rw [List.dropWhile_cons_of_pos hd]
      have h1 := length_splitFraction_le (cs.dropWhile isDigit)
      have h2 := length_dropWhile_le isDigit cs
      simp only [List.length_cons]
      omega
    | false =>
      have hp : c = '.' := by simpa [hd] using hc
      subst hp
      rw [List.dropWhile_cons_of_neg (by simp [hd])]
      exact Nat.lt_succ_of_le (length_dropWhile_le isDigit cs)
  exact Nat.lt_of_le_of_lt (length_splitExponent_le _) h

theorem length_scanNumber {c : Char} {cs rest : List Char} {x : Float}
    (hc : (isDigit c || c == '.') = true) (h : scanNumber (c :: cs) = .ok (x, rest)) :
    rest.length < (c :: cs).length := by
  have hlen : (splitNumeral (c :: cs)).2.length < (c :: cs).length := length_splitNumeral hc
  unfold scanNumber at h
  split at h
  · cases h
  · simp only at h
    split at h
    · simp only [Except.ok.injEq, Prod.mk.injEq] at h
      exact h.2 ▸ hlen
    · cases h

theorem length_scanOperator {c : Char} {cs rest : List Char} {t : Lexeme}
    (h : scanOperator c cs = .ok (t, rest)) : rest.length < (c :: cs).length := by
  unfold scanOperator at h
  split at h <;> cases h <;> simp only [List.length_cons] <;> omega

theorem length_scanWord {c : Char} {cs : List Char} (hc : isSmallLetter c = true) :
    (scanWord (c :: cs)).2.length < (c :: cs).length := by
  have hn : isNameChar c = true := by simp [Text.isNameChar, Text.isLetter, hc]
  have hle := length_dropWhile_le isNameChar cs
  unfold scanWord
  simp only [List.takeWhile_cons_of_pos hn, List.dropWhile_cons_of_pos hn, List.length_cons]
  split
  · simp only
    omega
  · split
    · rename_i heq
      rw [heq, List.length_cons] at hle
      simp only
      omega
    · simp only
      omega

theorem length_scanCapture {c : Char} {cs rest : List Char} {t : Lexeme}
    (h : scanCapture cs = .ok (t, rest)) : rest.length < (c :: cs).length := by
  simp only [scanCapture] at h
  split at h
  · cases h
  · simp only [Except.ok.injEq, Prod.mk.injEq] at h
    rw [← h.2]
    exact Nat.lt_succ_of_le (length_dropWhile_le isNameChar cs)

theorem length_scanBracket {operandDue : Bool} {c : Char} {cs rest : List Char} {t : Lexeme}
    (h : scanBracket operandDue c cs = .ok (t, rest)) : rest.length < (c :: cs).length := by
  have hle : ∀ n, (cs.drop n).length < (c :: cs).length := by
    intro n
    rw [List.length_drop, List.length_cons]
    omega
  unfold scanBracket at h
  split at h
  · cases h
  · split at h
    · simp only [Except.ok.injEq, Prod.mk.injEq] at h
      rw [← h.2]
      exact hle _
    · simp only [Except.ok.injEq, Prod.mk.injEq] at h
      rw [← h.2]
      exact hle _

/-- What `scanOne` leaves is shorter than what it was given. -/
theorem length_scanOne {operandDue : Bool} {c : Char} {cs rest : List Char} {t : Lexeme}
    (h : scanOne operandDue c cs = .ok (t, rest)) : rest.length < (c :: cs).length := by
  unfold scanOne at h
  split at h
  · exact length_scanBracket h
  split at h
  · obtain ⟨raw, hr, -⟩ := readAs_eq_ok_iff.1 h
    exact Nat.lt_succ_of_lt (length_scanPattern hr)
  split at h
  · obtain ⟨s, hs, -⟩ := readAs_eq_ok_iff.1 h
    exact Nat.lt_succ_of_lt (length_scanText hs)
  split at h
  · cases h
    exact Nat.lt_succ_self _
  split at h
  · cases h
    exact Nat.lt_succ_self _
  split at h
  · cases h
    exact Nat.lt_succ_self _
  split at h
  · rename_i hc
    obtain ⟨x, hx, -⟩ := readAs_eq_ok_iff.1 h
    exact length_scanNumber hc hx
  split at h
  · rename_i hc
    have hw := @length_scanWord c cs hc
    rw [Except.ok.inj h] at hw
    exact hw
  split at h
  · exact length_scanCapture h
  · exact length_scanOperator h

/-! ## Whole formulas -/

/-- Reads the lexemes of a text; the first argument says whether an operand is due. -/
def scanFrom (operandDue : Bool) (cs : List Char) : Except Fault (List Lexeme) :=
  match _hs : cs.dropWhile isBlank with
  | [] => .ok []
  | c :: rest =>
    match _h : scanOne operandDue c rest with
    | .error e => .error e
    | .ok (t, rest') => (scanFrom (!t.endsOperand) rest').map (t :: ·)
termination_by cs.length
decreasing_by
  have h1 := length_scanOne _h
  have h2 := length_dropWhile_le isBlank cs
  rw [_hs] at h2
  omega

/-- Reads the lexemes of a formula. -/
def scan (source : String) : Except Fault (List Lexeme) :=
  scanFrom true source.toList

end Reckon.Lexeme
