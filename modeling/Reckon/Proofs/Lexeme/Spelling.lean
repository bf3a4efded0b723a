/-
# Reckon.Proofs.Lexeme.Spelling — every text has a literal

A text is spelt between two quotes of either kind by writing a backslash in front of backslashes
and of the quote, and the escapes of the two line breaks in place of them. Everything else stands
for itself, other controls and the other quote included. The scanner reads the text back.

Two readers look at a backslash, the one for the closing quote and the one for escapes. Both take it
together with the character after it, so each of them is followed character by character of the
text and not of its spelling.
-/
import Reckon.Proofs.Lexeme.Append

namespace Reckon.Lexeme

open Text (isBlank)

/-- How a character is spelt between two quotes. -/
def spellChar (quote c : Char) : List Char :=
  if c = '\\' then ['\\', '\\']
  else if c = quote then ['\\', quote]
  else if c = '\n' then ['\\', 'n']
  else if c = '\r' then ['\\', 'r']
  else [c]

/-- How a text is spelt between two quotes. -/
def spell (quote : Char) (s : String) : String :=
  String.ofList (quote :: s.toList.flatMap (spellChar quote) ++ [quote])

variable {quote : Char}

/-! ## The two readers -/

/-- The spelling of a character does not hold the end of the literal. -/
theorem splitAtStop?_spellChar (quote c : Char) (cs : List Char) :
    splitAtStop? quote (spellChar quote c ++ cs)
      = (splitAtStop? quote cs).map fun (body, rest) => (spellChar quote c ++ body, rest) := by
  have hpair : ∀ d, splitAtStop? quote ('\\' :: d :: cs)
      = (splitAtStop? quote cs).map fun (body, rest) => ('\\' :: d :: body, rest) := by
    intro d
    rw [splitAtStop?]
  rw [spellChar]
  split
  · exact hpair '\\'
  · split
    · exact hpair quote
    · split
      · exact hpair 'n'
      · split
        · exact hpair 'r'
        · rename_i hbackslash hne _ _
          rw [List.singleton_append, splitAtStop?, if_neg hne]
          · rfl
          · exact hbackslash

theorem splitAtStop?_spell (hquote : isQuote quote = true) (cs rest : List Char) :
    splitAtStop? quote (cs.flatMap (spellChar quote) ++ quote :: rest)
      = some (cs.flatMap (spellChar quote), rest) := by
  induction cs with
  | nil =>
      rw [List.flatMap_nil, List.nil_append, splitAtStop?, if_pos rfl]
      rintro rfl
      cases hquote
  | cons c cs ih =>
      rw [List.flatMap_cons, List.append_assoc, splitAtStop?_spellChar, ih]
      rfl

theorem unescape?_escape {c d : Char} {cs rest : List Char} (hd : d ≠ '\'')
    (h : Json.readEscape? (d :: cs) = some (c, rest)) :
    unescape? ('\\' :: d :: cs) = (unescape? rest).map (c :: ·) := by
  rw [unescape?]
  · split
    · rename_i hnone
      rw [h] at hnone
      cases hnone
    · rename_i hsome
      rw [h] at hsome
      cases hsome
      rfl
  · intro heq
    cases heq
  · rintro cs' heq
    cases heq
    exact hd rfl

/-- The spelling of a character is read back as this character. -/
theorem unescape?_spellChar (hquote : isQuote quote = true) (c : Char) (cs : List Char) :
    unescape? (spellChar quote c ++ cs) = (unescape? cs).map (c :: ·) := by
  rw [spellChar]
  split
  · rename_i hc
    rw [hc]
    exact unescape?_escape (by decide) rfl
  · split
    · rename_i hc
      rw [hc]
      -- only the double quote is an escape of JSON
      rcases isQuote_iff.1 hquote with rfl | rfl
      · exact unescape?_escape (by decide) rfl
      · exact unescape?.eq_3 cs
    · split
      · rename_i hc
        rw [hc]
        exact unescape?_escape (by decide) rfl
      · split
        · rename_i hc
          rw [hc]
          exact unescape?_escape (by decide) rfl
        · rename_i hbackslash _ _ _
          exact unescape?.eq_5 c cs hbackslash

theorem unescape?_spell (hquote : isQuote quote = true) (cs : List Char) :
    unescape? (cs.flatMap (spellChar quote)) = some cs := by
  induction cs with
  | nil => rw [List.flatMap_nil, unescape?]
  | cons c cs ih =>
      rw [List.flatMap_cons, unescape?_spellChar hquote, ih]
      rfl

/-! ## The scanner -/

theorem scanText_spell (hquote : isQuote quote = true) (s : String) (rest : List Char) :
    scanText quote (s.toList.flatMap (spellChar quote) ++ quote :: rest) = .ok (s, rest) := by
  rw [scanText, splitAtStop?_spell hquote]
  dsimp only
  rw [unescape?_spell hquote]
  dsimp only
  rw [String.ofList_toList]

/-- The literal of a text is one lexeme, and this lexeme is the text. -/
theorem scan_spell (hquote : isQuote quote = true) (s : String) :
    scan (spell quote s) = .ok [.text s] := by
  have hstart : (spell quote s).toList.dropWhile isBlank
      = quote :: (s.toList.flatMap (spellChar quote) ++ [quote]) := by
    rw [spell, String.toList_ofList, List.cons_append, List.dropWhile_cons_of_neg]
    rcases isQuote_iff.1 hquote with rfl | rfl
    · decide
    · decide
  have hone : scanOne true quote (s.toList.flatMap (spellChar quote) ++ [quote])
      = .ok (.text s, []) := by
    have hscan := scanText_spell hquote s []
    rcases isQuote_iff.1 hquote with rfl | rfl
    · exact readAs_eq_ok_iff.2 ⟨s, hscan, rfl⟩
    · exact readAs_eq_ok_iff.2 ⟨s, hscan, rfl⟩
  rw [scan, scanFrom_of_scanOne hstart hone, scanFrom_of_blank _ rfl]
  rfl

end Reckon.Lexeme
