/-
# Reckon.Proofs.Lexeme.Container — containers are one lexeme each

The search for the partner of a bracket knows quotes and brackets, and nothing else of JSON. It
passes over every text of a value as if this were not there (`passedOver_of_spells`): over
strings, because a quote or a backslash in them is written behind a backslash and every other
bracket and quote stands between double quotes, and over containers, because their brackets come in
pairs. So the partner of the bracket that the text of a container starts with is the last character
of this text. The canonical text is also free of line breaks, which preparing a statement would take
out (`Inert`).
-/
import Reckon.Proofs.Json.RoundTrip
import Reckon.Proofs.Lexeme.Passage
import Reckon.Proofs.Statement.Preparation

namespace Reckon.Lexeme

open Json (Padded Spells SpellsBody SpellsEscape SpellsString escapeChar hexDigit hexValue? isSpace
  itemsText memberText membersText print readUnit?)
open Statement (notBreak_of_mem_escape)
open Text (isBlank)

variable {depth : Nat} {cs ds : List Char} {c : Char}

/-! ## Strings -/

theorem closingOffset?_hidden (c : Char) (cs : List Char) :
    closingOffset? depth (some '"') ('\\' :: c :: cs)
      = (closingOffset? depth (some '"') cs).map (· + 2) := by
  rw [closingOffset?]

theorem closingOffset?_quoted (h : ∀ c ∈ cs, c ≠ '"' ∧ c ≠ '\\') (rest : List Char) :
    closingOffset? depth (some '"') (cs ++ rest)
      = (closingOffset? depth (some '"') rest).map (· + cs.length) := by
  induction cs with
  | nil => exact Option.map_id'.symm
  | cons c cs ih =>
      obtain ⟨hquote, hbackslash⟩ := h c List.mem_cons_self
      rw [List.cons_append, closingOffset?, if_neg hquote,
        ih fun d hd => h d (List.mem_cons_of_mem _ hd), Option.map_map]
      · rfl
      · exact hbackslash

/-- The digits of a code unit are neither quotes nor backslashes. -/
theorem ne_of_mem_of_readUnit? {n : Nat} (h : readUnit? cs = some (n, [])) :
    ∀ c ∈ cs, c ≠ '"' ∧ c ≠ '\\' := by
  have hdigit : ∀ {c n}, hexValue? c = some n → c ≠ '"' ∧ c ≠ '\\' := by
    intro c n hc
    constructor
    · rintro rfl
      cases hc
    · rintro rfl
      cases hc
  unfold readUnit? at h
  split at h
  · simp only [Option.bind_eq_bind, Option.bind_eq_some_iff, Option.some.injEq,
      Prod.mk.injEq] at h
    obtain ⟨_, ha, _, hb, _, hc, _, hd, -, rfl⟩ := h
    simp only [List.forall_mem_cons]
    exact ⟨hdigit ha, hdigit hb, hdigit hc, hdigit hd, nofun⟩
  · cases h

/-- An escape does not end the string. -/
theorem closingOffset?_escape {escape : List Char} (h : SpellsEscape c escape) (cs : List Char) :
    closingOffset? depth (some '"') ('\\' :: escape ++ cs)
      = (closingOffset? depth (some '"') cs).map (· + (escape.length + 1)) := by
  cases h with
  | letter _ => exact closingOffset?_hidden _ cs
  | unit hunit _ =>
      rw [List.cons_append, List.cons_append, closingOffset?_hidden,
        closingOffset?_quoted (ne_of_mem_of_readUnit? hunit), Option.map_map]
      rfl
  | pair hunit hunit' _ _ _ _ =>
      rw [List.cons_append, List.append_assoc, List.cons_append, List.cons_append,
        List.cons_append, closingOffset?_hidden,
        closingOffset?_quoted (ne_of_mem_of_readUnit? hunit), closingOffset?_hidden,
        closingOffset?_quoted (ne_of_mem_of_readUnit? hunit'), Option.map_map, Option.map_map,
        Option.map_map]
      congr 1
      funext n
      simp only [Function.comp_apply, List.length_append, List.length_cons]
      omega

/-- The quote at the end of a string is the one that ends it. -/
theorem closingOffset?_body {s body : List Char} (h : SpellsBody s body) (rest : List Char) :
    closingOffset? depth (some '"') (body ++ '"' :: rest)
      = (closingOffset? depth none rest).map (· + (body.length + 1)) := by
  induction h with
  | nil =>
      rw [List.nil_append, closingOffset?, if_pos rfl]
      · rfl
      · decide
  | @plain c s cs hquote hbackslash _ _ ih =>
      have hplain : ∀ d ∈ [c], d ≠ '"' ∧ d ≠ '\\' :=
        List.forall_mem_singleton.2 ⟨hquote, hbackslash⟩
      rw [← List.singleton_append, List.append_assoc, closingOffset?_quoted hplain, ih,
        Option.map_map]
      rfl
  | escaped hescape _ ih =>
      rw [List.append_assoc, closingOffset?_escape hescape, ih, Option.map_map,
        List.length_append, List.length_cons]
      congr 1
      funext n
      simp only [Function.comp_apply]
      omega

theorem passedOver_of_spellsString {s : String} (h : SpellsString s cs) : PassedOver cs := by
  obtain ⟨body, rfl, hbody⟩ := h
  intro depth rest
  rw [List.append_assoc, List.cons_append, List.singleton_append, closingOffset?_quote rfl,
    closingOffset?_body hbody, Option.map_map, List.length_append]
  rfl

/-! ## Values -/

/-- What holds of texts and of a comma holds of the texts with commas between them, if it holds of
the whole as soon as it holds of two parts. -/
theorem intercalate_of_append {P : List Char → Prop} (hnil : P []) (hcomma : P [','])
    (happend : ∀ {cs ds}, P cs → P ds → P (cs ++ ds)) {css : List (List Char)}
    (h : ∀ cs ∈ css, P cs) : P ([','].intercalate css) := by
  induction css with
  | nil => exact hnil
  | cons cs css ih =>
      have hcs := h cs List.mem_cons_self
      have hcss := ih fun ds hds => h ds (List.mem_cons_of_mem _ hds)
      cases css with
      | nil => rwa [List.intercalate_singleton]
      | cons ds css =>
          rw [List.intercalate_cons_cons]
          exact happend (happend hcs hcomma) hcss

theorem PassedOver.intercalate {css : List (List Char)} (h : ∀ cs ∈ css, PassedOver cs) :
    PassedOver ([','].intercalate css) :=
  intercalate_of_append .nil (.singleton rfl) .append h

theorem PassedOver.of_isSpace (h : ∀ c ∈ cs, isSpace c = true) : PassedOver cs :=
  .of_unmarked fun c hc => isMark_of_class rfl (h c hc)

theorem passedOver_toList {p : Padded} (h : PassedOver p.text) : PassedOver p.toList :=
  ((PassedOver.of_isSpace p.isSpace_before).append h).append (.of_isSpace p.isSpace_after)

/-- The items of an array are passed over, if each of them is. -/
theorem passedOver_itemsText {items : List (Value × Padded)}
    (h : ∀ i ∈ items, PassedOver i.2.text) : PassedOver (itemsText items) :=
  .intercalate (List.forall_mem_map.2 fun i hi => passedOver_toList (h i hi))

theorem passedOver_membersText {parts : List ((String × Value) × Padded × Padded)}
    (hnames : ∀ m ∈ parts, SpellsString m.1.1 m.2.1.text)
    (h : ∀ m ∈ parts, PassedOver m.2.2.text) : PassedOver (membersText parts) :=
  .intercalate (List.forall_mem_map.2 fun m hm =>
    (passedOver_toList (passedOver_of_spellsString (hnames m hm))).append
      ((PassedOver.singleton rfl).append (passedOver_toList (h m hm))))

/-- The search passes over every text of a value. -/
theorem passedOver_of_spells {v : Value} (h : Spells v cs) : PassedOver cs := by
  induction h with
  | null => exact .of_unmarked (by simp [isMark, isOpening, isClosing, isQuote])
  | bool b => cases b <;> exact .of_unmarked (by simp [isMark, isOpening, isClosing, isQuote])
  | number _ hchars _ => exact .of_unmarked fun c hc => isMark_of_class rfl (hchars c hc)
  | text hs => exact passedOver_of_spellsString hs
  | emptyArray hgap => exact (PassedOver.of_isSpace hgap).enclosed rfl rfl
  | array items _ _ ih => exact (passedOver_itemsText ih).enclosed rfl rfl
  | emptyObject hgap => exact (PassedOver.of_isSpace hgap).enclosed rfl rfl
  | object parts _ _ _ hnames _ ih => exact (passedOver_membersText hnames ih).enclosed rfl rfl

/-- A text of a container stands between two brackets. -/
theorem exists_enclosed_of_spells {v : Value} (h : Spells v cs)
    (hcontainer : v.isContainer = true) :
    ∃ first inner last, cs = first :: inner ++ [last] ∧ isOpening first = true ∧
      isClosing last = true ∧ PassedOver inner := by
  cases h with
  | emptyArray hgap => exact ⟨_, _, _, rfl, rfl, rfl, .of_isSpace hgap⟩
  | array items _ hitems =>
      exact ⟨_, _, _, rfl, rfl, rfl,
        passedOver_itemsText fun i hi => passedOver_of_spells (hitems i hi)⟩
  | emptyObject hgap => exact ⟨_, _, _, rfl, rfl, rfl, .of_isSpace hgap⟩
  | object parts _ _ _ hnames hvalues =>
      exact ⟨_, _, _, rfl, rfl, rfl,
        passedOver_membersText hnames fun m hm => passedOver_of_spells (hvalues m hm)⟩
  | _ => cases hcontainer

/-! ## Line breaks -/

theorem notBreak_of_mem_escapeChar {d : Char} (h : d ∈ escapeChar c) : d ≠ '\r' ∧ d ≠ '\n' := by
  unfold escapeChar at h
  split at h
  · exact notBreak_of_mem_escape (by decide) h
  · exact notBreak_of_mem_escape (by decide) h
  · exact notBreak_of_mem_escape (by decide) h
  · exact notBreak_of_mem_escape (by decide) h
  · exact notBreak_of_mem_escape (by decide) h
  · exact notBreak_of_mem_escape (by decide) h
  · exact notBreak_of_mem_escape (by decide) h
  · rename_i _ _ _ _ hnewline hreturn _
    split at h
    · rename_i hlt
      have hdigit : ∀ n < 16, hexDigit n ≠ '\r' ∧ hexDigit n ≠ '\n' := by decide
      simp only [List.mem_cons, List.not_mem_nil, or_false] at h
      rcases h with rfl | rfl | rfl | rfl | rfl | rfl
      · decide
      · decide
      · decide
      · decide
      · exact hdigit _ (by omega)
      · exact hdigit _ (by omega)
    · rw [List.mem_singleton.1 h]
      exact ⟨hreturn, hnewline⟩

/-! ## Inert texts -/

/-- A text that neither the search for a closing bracket stops in, if it starts inside the
brackets, nor the preparation of a statement changes. -/
structure Inert (cs : List Char) : Prop where
  passes : ∀ depth rest, closingOffset? (depth + 1) none (cs ++ rest)
    = (closingOffset? (depth + 1) none rest).map (· + cs.length)
  unbroken : ∀ c ∈ cs, c ≠ '\r' ∧ c ≠ '\n'

/-- A character that is neither a bracket nor a quote nor a line break. -/
def isPlain (c : Char) : Bool :=
  !(isOpening c || isClosing c || isQuote c || c == '\r' || c == '\n')

namespace Inert

theorem nil : Inert [] where
  passes := PassedOver.nil
  unbroken := nofun

theorem append (hcs : Inert cs) (hds : Inert ds) : Inert (cs ++ ds) where
  passes := PassedOver.append hcs.passes hds.passes
  unbroken := by
    intro c hc
    rcases List.mem_append.1 hc with hc | hc
    · exact hcs.unbroken c hc
    · exact hds.unbroken c hc

theorem singleton (h : isPlain c = true) : Inert [c] := by
  simp only [isPlain, Bool.not_eq_true', Bool.or_eq_false_iff, beq_eq_false_iff_ne] at h
  obtain ⟨⟨⟨⟨hopen, hclose⟩, hquote⟩, hreturn⟩, hnewline⟩ := h
  refine ⟨PassedOver.singleton ?_, ?_⟩
  · rw [isMark, hopen, hclose, hquote]
    rfl
  · intro d hd
    rw [List.mem_singleton.1 hd]
    exact ⟨hreturn, hnewline⟩

theorem string (s : String) : Inert (Json.string s) where
  passes := passedOver_of_spellsString (Json.spellsString_string s)
  unbroken := by
    intro c hc
    rw [Json.string] at hc
    rcases List.mem_append.1 hc with hc | hc
    · rcases List.mem_cons.1 hc with rfl | hc
      · decide
      · obtain ⟨d, -, hd⟩ := List.mem_flatMap.1 hc
        exact notBreak_of_mem_escapeChar hd
    · rw [List.mem_singleton.1 hc]
      decide

/-- An inert text between two brackets. -/
theorem enclosed (h : Inert cs) {first last : Char} (hopen : isOpening first = true)
    (hclose : isClosing last = true) : Inert (first :: cs ++ [last]) where
  passes := PassedOver.enclosed h.passes hopen hclose
  unbroken := by
    intro c hc
    rcases List.mem_append.1 hc with hc | hc
    · rcases List.mem_cons.1 hc with rfl | hc
      · exact ⟨Text.ne_of_class hopen rfl, Text.ne_of_class hopen rfl⟩
      · exact h.unbroken c hc
    · rw [List.mem_singleton.1 hc]
      exact ⟨Text.ne_of_class hclose rfl, Text.ne_of_class hclose rfl⟩

theorem intercalate {css : List (List Char)} (h : ∀ cs ∈ css, Inert cs) :
    Inert ([','].intercalate css) :=
  intercalate_of_append .nil (.singleton rfl) .append h

end Inert

/-! ## Values -/

/-- Where an operand is due, a text between two brackets is one lexeme. -/
theorem scanFrom_enclosed {gap inner : List Char} {first last : Char}
    (hgap : ∀ c ∈ gap, isBlank c = true) (hopen : isOpening first = true)
    (hclose : isClosing last = true) (hinner : PassedOver inner) (rest : List Char) :
    scanFrom true (gap ++ (first :: inner ++ [last]) ++ rest)
      = (scanFrom false rest).map (.json (String.ofList (first :: inner ++ [last])) :: ·) := by
  have hstart : (gap ++ (first :: inner ++ [last]) ++ rest).dropWhile isBlank
      = first :: (inner ++ [last] ++ rest) := by
    rw [List.append_assoc, List.dropWhile_append_of_pos hgap, List.cons_append, List.cons_append,
      List.dropWhile_cons_of_neg (by simp [isBlank_of_isOpening hopen])]
  have halone : scanBracket true first (inner ++ [last])
      = .ok (.json (String.ofList (first :: inner ++ [last])), []) := by
    rw [scanBracket_of_balancedEnd? true (hinner.balancedEnd?_eq hopen hclose), Bool.not_true,
      Bool.and_false, if_neg Bool.false_ne_true, List.cons_append]
  have hone : scanOne true first (inner ++ [last] ++ rest)
      = .ok (.json (String.ofList (first :: inner ++ [last])), rest) := by
    rw [scanOne, if_pos hopen]
    exact scanBracket_append halone rest
  exact scanFrom_of_scanOne hstart hone

/-- Where an operand is due, a text of a container is one lexeme. -/
theorem scanFrom_of_spells {v : Value} {gap : List Char} (h : Spells v cs)
    (hcontainer : v.isContainer = true) (hgap : ∀ c ∈ gap, isBlank c = true) (rest : List Char) :
    scanFrom true (gap ++ cs ++ rest)
      = (scanFrom false rest).map (.json (String.ofList cs) :: ·) := by
  obtain ⟨first, inner, last, rfl, hopen, hclose, hinner⟩ := exists_enclosed_of_spells h hcontainer
  exact scanFrom_enclosed hgap hopen hclose hinner rest

end Reckon.Lexeme
