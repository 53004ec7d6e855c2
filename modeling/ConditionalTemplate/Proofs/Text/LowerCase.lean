import ConditionalTemplate.Proofs.Text.Bytes
import ConditionalTemplate.Proofs.Text.Class
import ConditionalTemplate.Text.Run

/-!
# Texts in lower case

`lower s` is the text with its ASCII letters in lower case. The parts of a text that are read by
tags and by classes of characters are those of the text in lower case (`Tag.read?_lower`,
`Tag.cut?_lower`, `readRun?_lower`), and have the same widths. Two texts have one lower case if
their bytes differ only in the case of ASCII letters (`lower_eq_iff`).
-/

namespace ConditionalTemplate.Text

variable {s s' : List Char} {c : Char} {p : Char → Bool}

/-- The text with its ASCII letters in lower case. -/
def lower (s : List Char) : List Char :=
  s.map Char.toLower

@[simp] theorem lower_nil : lower [] = [] := rfl

@[simp] theorem lower_cons (c : Char) (s : List Char) : lower (c :: s) = c.toLower :: lower s := rfl

@[simp] theorem lower_append (s t : List Char) : lower (s ++ t) = lower s ++ lower t :=
  List.map_append

theorem width_lower (s : List Char) : width (lower s) = width s :=
  Tag.width_map_toLower s

theorem toLower_eq_self (h : ¬ (65 ≤ c.toNat ∧ c.toNat ≤ 90)) : c.toLower = c := by
  have hn := Tag.toNat_toLower c
  rw [if_neg h] at hn
  exact Char.toNat_inj.mp hn

theorem toLower_toLower (c : Char) : c.toLower.toLower = c.toLower := by
  refine toLower_eq_self ?_
  rw [Tag.toNat_toLower]
  split <;> omega

theorem isBlank_toLower (c : Char) : isBlank c.toLower = isBlank c := by
  by_cases h : 65 ≤ c.toNat ∧ c.toNat ≤ 90
  · have hn := Tag.toNat_toLower c
    rw [if_pos h] at hn
    have hblank : ∀ d : Char, 33 ≤ d.toNat → d.toNat < 0x85 → isBlank d = false := by
      intro d hl hu
      simp only [isBlank, Bool.or_eq_false_iff, Bool.and_eq_false_iff, decide_eq_false_iff_not,
        beq_eq_false_iff_ne]
      omega
    rw [hblank c (by omega) (by omega), hblank c.toLower (by omega) (by omega)]
  · rw [toLower_eq_self h]

/-- All ASCII letters are word characters. -/
theorem isWordChar_toLower (c : Char) : isWordChar c.toLower = isWordChar c := by
  by_cases h : 65 ≤ c.toNat ∧ c.toNat ≤ 90
  · have hn := Tag.toNat_toLower c
    rw [if_pos h] at hn
    have hletter : ∀ d : Char, 65 ≤ d.toNat → d.toNat ≤ 122 → (d.toNat ≤ 90 ∨ 97 ≤ d.toNat) →
        isWordChar d = true := by
      intro d hl hu hcase
      have halpha : d.isAlpha = true := by
        delta Char.isAlpha Char.isUpper Char.isLower
        simp [UInt32.le_iff_toNat_le]
        omega
      rw [isWordChar, Char.isAlphanum, halpha]
      rfl
    rw [hletter c (by omega) (by omega) (by omega),
      hletter c.toLower (by omega) (by omega) (by omega)]
  · rw [toLower_eq_self h]

theorem toLower_eq_lineBreak : c.toLower = '\n' ↔ c = '\n' := by
  have hn := Tag.toNat_toLower c
  rw [← Char.toNat_inj, ← Char.toNat_inj]
  show _ = 10 ↔ _ = 10
  split at hn <;> omega

/-- A run of a class that has the letters in both cases. -/
theorem readRun?_lower (hp : ∀ c, p c.toLower = p c) (s : List Char) :
    readRun? p (lower s) = (readRun? p s).map (Prod.map lower lower) := by
  have hp' : p ∘ Char.toLower = p := funext hp
  simp only [readRun?, lower, List.takeWhile_map, List.dropWhile_map, hp', List.map_eq_nil_iff]
  split <;> rfl

theorem trimEnd_lower (s : List Char) : trimEnd (lower s) = lower (trimEnd s) := by
  have hp : isBlank ∘ Char.toLower = isBlank := funext isBlank_toLower
  simp only [trimEnd, lower, ← List.map_reverse, List.dropWhile_map, hp]

theorem trailing_lower (s : List Char) : trailing (lower s) = lower (trailing s) := by
  have hp : isBlank ∘ Char.toLower = isBlank := funext isBlank_toLower
  simp only [trailing, lower, ← List.map_reverse, List.takeWhile_map, hp]

namespace Tag

variable {tag : List Char}

theorem sameLetter_toLower (t c : Char) : sameLetter t c.toLower = sameLetter t c := by
  rw [sameLetter, sameLetter, toLower_toLower]

theorem read?_lower (tag s : List Char) :
    read? tag (lower s) = (read? tag s).map (Prod.map lower lower) := by
  fun_induction read? tag s with
  | case1 s => rw [read?]; rfl
  | case2 => rfl
  | case3 t tag c s h ih =>
    rw [lower_cons, read?, sameLetter_toLower, if_pos h, ih, Option.map_map, Option.map_map]
    rfl
  | case4 t tag c s h =>
    rw [lower_cons, read?, sameLetter_toLower, if_neg h]
    rfl

/-- The parts of a cut in lower case. -/
def Cut.lower (cut : Cut) : Cut where
  before := Text.lower cut.before
  written := Text.lower cut.written
  after := Text.lower cut.after

theorem cut?_lower (tag s : List Char) : cut? tag (lower s) = (cut? tag s).map Cut.lower := by
  induction s with
  | nil =>
    rw [lower_nil, cut?, Option.map_map]
    cases tag <;> rfl
  | cons c s ih =>
    have hr := read?_lower tag (c :: s)
    rw [lower_cons] at hr ⊢
    rw [cut?, cut?, hr, ih]
    cases read? tag (c :: s) with
    | some x => rfl
    | none =>
      simp only [Option.map_none, Option.map_map]
      rfl

end Tag

/-- A text is known by its bytes. -/
theorem bytes_injective (h : bytes s = bytes s') : s = s' := by
  refine String.ofList_injective (String.toByteArray_inj.mp ?_)
  rw [String.toByteArray_ofList, String.toByteArray_ofList]
  exact congrArg List.toByteArray h

theorem lowerByte_of_le {b : UInt8} (h : 128 ≤ b.toNat) : lowerByte b = b :=
  if_neg (by omega)

theorem map_lowerByte_utf8EncodeChar (c : Char) :
    (String.utf8EncodeChar c).map lowerByte = String.utf8EncodeChar c.toLower := by
  rcases Nat.lt_or_ge c.toNat 128 with hc | hc
  · have hn := Tag.toNat_lowerByte_ofNat hc
    have hl : c.toLower.toNat < 128 := by
      rw [Tag.toNat_toLower]
      split <;> omega
    rw [utf8EncodeChar_of_lt hc, utf8EncodeChar_of_lt hl, List.map_singleton, ← hn,
      UInt8.ofNat_toNat]
  · rw [toLower_eq_self (by omega)]
    have hb : ∀ b ∈ String.utf8EncodeChar c, lowerByte b = b := fun b hb =>
      lowerByte_of_le (le_toNat_of_mem_utf8EncodeChar hc hb)
    rw [List.map_congr_left hb, List.map_id']

theorem bytes_lower (s : List Char) : bytes (lower s) = (bytes s).map lowerByte := by
  induction s with
  | nil => rfl
  | cons c s ih =>
    rw [lower_cons, bytes_cons, bytes_cons, List.map_append, map_lowerByte_utf8EncodeChar, ih]

/-- Texts have one lower case exactly if their bytes are equal up to the case of ASCII letters. -/
theorem lower_eq_iff : lower s = lower s' ↔ (bytes s).map lowerByte = (bytes s').map lowerByte := by
  rw [← bytes_lower, ← bytes_lower]
  exact ⟨congrArg bytes, bytes_injective⟩

end ConditionalTemplate.Text
