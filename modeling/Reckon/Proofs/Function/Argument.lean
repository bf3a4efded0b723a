/-
# Reckon.Proofs.Function.Argument — what a typed host function receives

A call of a function of typed arguments is refused for the first argument that cannot be converted
(`Refuses`), or the function receives all of them converted to their types (`Converts`); there is
nothing else that a call on the right number of arguments can do (`call_ofTyped`).

An integer is converted from a numeric view that is a finite integer, and clamped into 64 bits. So
what the function receives is the view exactly if this lies in the range of 64 bits; a view beyond
the range is not refused, and the function receives another integer.
-/
import Reckon.Function.Host
import Reckon.Proofs.Number.Modulo

namespace Reckon

/-! ## Whole numbers as integers of 64 bits -/

/-- A whole number is converted to itself if it fits 64 bits, and to another integer if not. -/
theorem Number.toInt_toInt64_eq_iff {x : Float} (h : isWhole x = true) :
    ((toInt64 x).toInt : ℚ) = toRat x ↔ -2 ^ 63 ≤ toRat x ∧ toRat x < 2 ^ 63 := by
  obtain ⟨hfinite, k, hk⟩ := isWhole_iff.1 h
  have hlow : (-2 ^ 63 : ℚ) = (-2 ^ 63 : ℤ) := by norm_num
  have hhigh : (2 ^ 63 : ℚ) = (2 ^ 63 : ℤ) := by norm_num
  rw [toInt64_eq_clamp hfinite, hk, truncated_intCast, toInt_clamp, hlow, hhigh, Int.cast_inj,
    Int.cast_le, Int.cast_lt]
  omega

/-- The numeric view of the value is a finite integer. -/
def Value.IsInteger (v : Value) : Prop :=
  ∃ x, v.number? = some x ∧ x.isFinite = true ∧ ∃ k : ℤ, Number.toRat x = k

namespace HostFunction

variable {types : List ArgumentType} {args : List Value} {i : ℕ} {t : ArgumentType} {v : Value}

/-! ## Integers -/

theorem convert?_integer_eq_none_iff : ArgumentType.integer.convert? v = none ↔ ¬ v.IsInteger := by
  rw [ArgumentType.convert?, Value.IsInteger]
  split
  · rename_i x hx
    rw [hx]
    simp [← Number.isWhole_iff]
  · rename_i hnone
    simp [hnone]

theorem convert?_integer_eq_some {n : Int64} (h : ArgumentType.integer.convert? v = some n) :
    ∃ x, v.number? = some x ∧ Number.isWhole x = true ∧ n = Number.toInt64 x := by
  rw [ArgumentType.convert?] at h
  split at h
  · rename_i x hx
    split at h
    · rename_i hwhole
      cases h
      exact ⟨x, hx, hwhole, rfl⟩
    · cases h
  · cases h

/-! ## The arguments of a call -/

/-- Arguments of the given types. -/
inductive Arguments : List ArgumentType → Type
  | nil : Arguments []
  | cons {t : ArgumentType} {types : List ArgumentType} :
      t.Carrier → Arguments types → Arguments (t :: types)

namespace Arguments

/-- What a typed function gives when it receives the arguments. -/
def pass : {types : List ArgumentType} → Arguments types → Typed types → Except String Value
  | _, nil, f => f
  | _, cons x xs, f => xs.pass (f x)

/-- The argument at a place, with its type. -/
def get? : {types : List ArgumentType} → Arguments types → ℕ → Option (Σ t, ArgumentType.Carrier t)
  | _, nil, _ => none
  | _, cons x _, 0 => some ⟨_, x⟩
  | _, cons _ xs, i + 1 => xs.get? i

end Arguments

/-- The values, converted to their types, are the arguments. -/
inductive Converts : {types : List ArgumentType} → List Value → Arguments types → Prop
  | nil : Converts [] .nil
  | cons {types : List ArgumentType} {args : List Value} {xs : Arguments types} {t : ArgumentType}
      {v : Value} {x : t.Carrier} :
      t.convert? v = some x → Converts args xs → Converts (v :: args) (.cons x xs)

/-- The value at the place `i` is the first that cannot be converted to its type, which is `t`. -/
inductive Refuses : List ArgumentType → List Value → ℕ → ArgumentType → Prop
  | here {types : List ArgumentType} {args : List Value} {t : ArgumentType} {v : Value} :
      t.convert? v = none → Refuses (t :: types) (v :: args) 0 t
  | later {types : List ArgumentType} {args : List Value} {t t' : ArgumentType} {v : Value}
      {x : t'.Carrier} {i : ℕ} :
      t'.convert? v = some x → Refuses types args i t → Refuses (t' :: types) (v :: args) (i + 1) t

theorem Converts.get? {xs : Arguments types} (h : Converts args xs) (ht : types[i]? = some t)
    (hv : args[i]? = some v) : ∃ x, xs.get? i = some ⟨t, x⟩ ∧ t.convert? v = some x := by
  induction h generalizing i with
  | nil => cases ht
  | cons hx _ ih =>
      cases i with
      | zero =>
          cases ht
          cases hv
          exact ⟨_, rfl, hx⟩
      | succ i => exact ih ht hv

theorem Refuses.convert? (h : Refuses types args i t) :
    types[i]? = some t ∧ ∃ v, args[i]? = some v ∧ t.convert? v = none := by
  induction h with
  | here hnone => exact ⟨rfl, _, rfl, hnone⟩
  | later _ _ ih => exact ih

/-- From any place on, the first argument without a conversion is reported, or the function
receives the converted arguments. -/
theorem applyTyped_cases (position : ℕ) (f : Typed types) (hlength : args.length = types.length) :
    (∃ i t, Refuses types args i t ∧ applyTyped position types f args
      = .error ("Expected argument " ++ toString (position + i) ++ " to be " ++ t.name)) ∨
    ∃ xs : Arguments types, Converts args xs ∧ applyTyped position types f args = xs.pass f := by
  induction types generalizing position args with
  | nil =>
      obtain rfl := List.length_eq_zero_iff.1 hlength
      exact .inr ⟨.nil, .nil, rfl⟩
  | cons t types ih =>
      cases args with
      | nil => cases hlength
      | cons v args =>
          rw [applyTyped, List.head?_cons, Option.bind_some, List.tail_cons]
          cases hconvert : t.convert? v with
          | none => exact .inl ⟨0, t, .here hconvert, rfl⟩
          | some x =>
              rcases ih (position + 1) (f x) (Nat.succ.inj hlength) with
                ⟨i, t', hrefuses, herror⟩ | ⟨xs, hconverts, hpass⟩
              · have hplace : position + 1 + i = position + (i + 1) := by omega
                rw [hplace] at herror
                exact .inl ⟨i + 1, t', .later hconvert hrefuses, herror⟩
              · exact .inr ⟨.cons x xs, .cons hconvert hconverts, hpass⟩

/-- A call with the right number of arguments is refused for the first that has no conversion, or
the function receives all of them converted, and gives the result. -/
theorem call_ofTyped (f : Typed types) (hlength : args.length = types.length) :
    (∃ i t, Refuses types args i t ∧ (ofTyped types f).call args
      = .error ("Expected argument " ++ toString i ++ " to be " ++ t.name)) ∨
    ∃ xs : Arguments types, Converts args xs ∧ (ofTyped types f).call args = xs.pass f := by
  have hcall : (ofTyped types f).call args = applyTyped 0 types f args := if_pos hlength
  rw [hcall]
  simpa using applyTyped_cases 0 f hlength

/-- What a call does with an integer argument. The call is refused for this argument, which is
then no integer; or it is refused for another one; or the function receives an integer of 64 bits
for it. The numeric view of the argument is then a finite integer, and the function receives
exactly that if and only if it fits 64 bits. -/
theorem call_integer (f : Typed types) (hlength : args.length = types.length)
    (htype : types[i]? = some .integer) (hv : args[i]? = some v) :
    ((ofTyped types f).call args
        = .error ("Expected argument " ++ toString i ++ " to be an integer") ∧ ¬ v.IsInteger) ∨
    (∃ j t, j ≠ i ∧ Refuses types args j t ∧ (ofTyped types f).call args
        = .error ("Expected argument " ++ toString j ++ " to be " ++ t.name)) ∨
    ∃ (xs : Arguments types) (n : Int64) (x : Float), Converts args xs ∧
      (ofTyped types f).call args = xs.pass f ∧ xs.get? i = some ⟨.integer, n⟩ ∧
      v.IsInteger ∧ v.number? = some x ∧
      ((n.toInt : ℚ) = Number.toRat x ↔ -2 ^ 63 ≤ Number.toRat x ∧ Number.toRat x < 2 ^ 63) := by
  rcases call_ofTyped f hlength with ⟨j, t, hrefuses, herror⟩ | ⟨xs, hconverts, hpass⟩
  · by_cases hj : j = i
    · subst hj
      obtain ⟨ht, w, hw, hnone⟩ := hrefuses.convert?
      cases htype.symm.trans ht
      cases hv.symm.trans hw
      rw [String.append_assoc] at herror
      exact .inl ⟨herror, convert?_integer_eq_none_iff.1 hnone⟩
    · exact .inr (.inl ⟨j, t, hj, hrefuses, herror⟩)
  · obtain ⟨n, hget, hconvert⟩ := hconverts.get? htype hv
    obtain ⟨x, hx, hwhole, rfl⟩ := convert?_integer_eq_some hconvert
    have hinteger : v.IsInteger := ⟨x, hx, Number.isWhole_iff.1 hwhole⟩
    exact .inr (.inr ⟨xs, _, x, hconverts, hpass, hget, hinteger, hx,
      Number.toInt_toInt64_eq_iff hwhole⟩)

/-- The smallest integer of 64 bits, spelled by a text, arrives as itself. -/
theorem call_integer_minValue :
    ∃ (xs : Arguments [.integer]) (n : Int64),
      (ofTyped [.integer] fun n => .ok (.number (Number.ofInt64 n))).call
        [.text "-9223372036854775808"] = xs.pass (fun n => .ok (.number (Number.ofInt64 n))) ∧
      xs.get? 0 = some ⟨.integer, n⟩ ∧ (n.toInt : ℚ) = -2 ^ 63 := by
  have hview : (Value.text "-9223372036854775808").number? = some (-9223372036854775808) := by
    decide
  have hvalue : Number.toRat (-9223372036854775808) = -2 ^ 63 := by
    have hbinary : Number.Binary.ofFloat (-9223372036854775808) = .finite true (2 ^ 52) 11 := by
      decide
    rw [Number.toRat, hbinary]
    norm_num [Number.Binary.toRat]
  have hinteger : (Value.text "-9223372036854775808").IsInteger :=
    ⟨_, hview, by decide, -2 ^ 63, by rw [hvalue]; norm_num⟩
  rcases @call_integer [.integer] [.text "-9223372036854775808"] 0 _
    (fun n => .ok (.number (Number.ofInt64 n))) rfl rfl rfl with
    ⟨-, hno⟩ | ⟨j, t, hj, hrefuses, -⟩ | ⟨xs, n, x, -, hpass, hget, -, hx, hexact⟩
  · exact absurd hinteger hno
  · cases hrefuses with
    | here => exact absurd rfl hj
    | later _ hnone => cases hnone
  · obtain rfl := Option.some.inj (hview.symm.trans hx)
    rw [hvalue] at hexact
    exact ⟨xs, n, hpass, hget, hexact.2 (by norm_num)⟩

/-- Beyond 64 bits the function receives another integer: here the greatest of 64 bits. -/
theorem not_call_integer :
    (ofTyped [.integer] fun n => .ok (.text (toString n.toInt))).call
        [.number 10000000000000000000] = .ok (.text "9223372036854775807") ∧
      Number.toRat 10000000000000000000 ≠ 9223372036854775807 := by
  have hvalue : Number.toRat 10000000000000000000 = 10 ^ 19 := by
    have hbinary : Number.Binary.ofFloat 10000000000000000000
        = .finite false 4882812500000000 11 := by
      decide
    rw [Number.toRat, hbinary]
    norm_num [Number.Binary.toRat]
  refine ⟨rfl, ?_⟩
  rw [hvalue]
  norm_num

end HostFunction

end Reckon
