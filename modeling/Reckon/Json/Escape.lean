/-
# Reckon.Json.Escape — the escapes of JSON strings

`readEscape?` reads what follows a backslash: one of the eight single-character escapes, or
`u` with four digits of base sixteen. A character beyond U+FFFF is written as two such
escapes, a high surrogate and a low one; a surrogate on its own spells nothing.

Both readers of escaped text use it: the one for JSON strings and the one for the string
literals of formulas.
-/

namespace Reckon.Json

/-- The value of a digit of base sixteen, in letters of either case. -/
def hexValue? (c : Char) : Option Nat :=
  if '0' ≤ c && c ≤ '9' then some (c.toNat - '0'.toNat)
  else if 'a' ≤ c && c ≤ 'f' then some (c.toNat - 'a'.toNat + 10)
  else if 'A' ≤ c && c ≤ 'F' then some (c.toNat - 'A'.toNat + 10)
  else none

/-- Reads four digits of base sixteen. -/
def readUnit? : List Char → Option (Nat × List Char)
  | a :: b :: c :: d :: rest => do
    let a ← hexValue? a
    let b ← hexValue? b
    let c ← hexValue? c
    let d ← hexValue? d
    some (((a * 16 + b) * 16 + c) * 16 + d, rest)
  | _ => none

/-- Reads the digits of a `u` escape, and the low surrogate after a high one. -/
def readCodePoint? (cs : List Char) : Option (Char × List Char) := do
  let (n, rest) ← readUnit? cs
  if 0xDC00 ≤ n && n ≤ 0xDFFF then none
  else if 0xD800 ≤ n && n ≤ 0xDBFF then
    match rest with
    | '\\' :: 'u' :: rest => do
      let (low, rest) ← readUnit? rest
      if 0xDC00 ≤ low && low ≤ 0xDFFF then
        some (Char.ofNat (0x10000 + (n - 0xD800) * 0x400 + (low - 0xDC00)), rest)
      else none
    | _ => none
  else some (Char.ofNat n, rest)

/-- Reads an escape after its backslash. -/
def readEscape? : List Char → Option (Char × List Char)
  | '"' :: rest => some ('"', rest)
  | '\\' :: rest => some ('\\', rest)
  | '/' :: rest => some ('/', rest)
  | 'b' :: rest => some ('\x08', rest)
  | 'f' :: rest => some ('\x0c', rest)
  | 'n' :: rest => some ('\n', rest)
  | 'r' :: rest => some ('\r', rest)
  | 't' :: rest => some ('\t', rest)
  | 'u' :: rest => readCodePoint? rest
  | _ => none

theorem length_readUnit? {cs rest : List Char} {n : Nat}
    (h : readUnit? cs = some (n, rest)) : rest.length < cs.length := by
  unfold readUnit? at h
  split at h
  · simp only [Option.bind_eq_bind, Option.bind_eq_some_iff, Option.some.injEq,
      Prod.mk.injEq] at h
    obtain ⟨_, _, _, _, _, _, _, _, _, rfl⟩ := h
    simp only [List.length_cons]
    omega
  · cases h

theorem length_readCodePoint? {cs rest : List Char} {c : Char}
    (h : readCodePoint? cs = some (c, rest)) : rest.length < cs.length := by
  simp only [readCodePoint?, Option.bind_eq_bind, Option.bind_eq_some_iff, Prod.exists] at h
  obtain ⟨n, r, hr, h⟩ := h
  have hlen := length_readUnit? hr
  split at h
  · cases h
  · split at h
    · split at h
      · simp only [Option.bind_eq_some_iff, Prod.exists] at h
        obtain ⟨low, r', hr', h⟩ := h
        have hlen' := length_readUnit? hr'
        split at h
        · simp only [Option.some.injEq, Prod.mk.injEq] at h
          obtain ⟨_, rfl⟩ := h
          simp only [List.length_cons] at hlen
          omega
        · cases h
      · cases h
    · simp only [Option.some.injEq, Prod.mk.injEq] at h
      exact h.2 ▸ hlen

/-- Reading an escape uses up part of the text. -/
theorem length_readEscape? {cs rest : List Char} {c : Char}
    (h : readEscape? cs = some (c, rest)) : rest.length < cs.length := by
  unfold readEscape? at h
  split at h
  case h_9 => exact Nat.lt_trans (length_readCodePoint? h) (by simp)
  case h_10 => cases h
  all_goals
    simp only [Option.some.injEq, Prod.mk.injEq] at h
    obtain ⟨_, rfl⟩ := h
    simp

end Reckon.Json
