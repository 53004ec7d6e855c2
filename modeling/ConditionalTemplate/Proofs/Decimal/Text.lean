import ConditionalTemplate.Decimal.Printer
import ConditionalTemplate.Decimal.Reader
import ConditionalTemplate.Proofs.Decimal.Number
import Mathlib.Data.List.TakeDrop

/-!
# Reading written numbers

A written integer reads back as itself (`Integer.read?_text`). A written decimal reads back with its
mantissa and its scale, and loses only the sign of a zero (`Decimal.read?_text`). Without places it
may have a point at its end (`Decimal.read?_text_point`), and then it is no integer
(`Integer.read?_eq_none_of_mem`).
-/

namespace ConditionalTemplate

namespace Integer

variable {s : List Char}

theorem readNat?_of_digits (hne : s ≠ []) (h : ∀ c ∈ s, c.isDigit = true) :
    readNat? s = some (Nat.ofDigitChars 10 s 0) :=
  if_pos ⟨hne, List.all_eq_true.mpr h⟩

theorem sign_cons {c : Char} (h : c ∉ ['+', '-']) (s : List Char) :
    sign (c :: s) = (false, c :: s) := by
  simp only [List.mem_cons, List.not_mem_nil, or_false, not_or] at h
  rw [sign]
  · rintro _ ⟨⟩; exact h.2 rfl
  · rintro _ ⟨⟩; exact h.1 rfl

theorem sign_of_head (h : ∀ c ∈ s.head?, c.isDigit = true) (negative : Bool) :
    sign ((if negative then ['-'] else []) ++ s) = (negative, s) := by
  cases negative with
  | true => rfl
  | false =>
    cases s with
    | nil => rfl
    | cons c s =>
      have hsign : c ∉ ['+', '-'] := by
        simp only [List.mem_cons, List.not_mem_nil, or_false]
        rintro (rfl | rfl) <;> cases h _ rfl
      rw [if_neg (by decide), List.nil_append, sign_cons hsign]

end Integer

namespace Decimal

variable {s : List Char} {m n : Nat} {d : Decimal}

/-! ### Digits and the point -/

/-- Digits, at least one of them in front of the point if there is one. Without the point they are
`m`, and `n` of them stand behind it. -/
inductive Numeral : List Char → Nat → Nat → Prop where
  | whole {s : List Char} (hne : s ≠ []) (h : ∀ c ∈ s, c.isDigit = true) :
    Numeral s (Nat.ofDigitChars 10 s 0) 0
  | pointed {s places : List Char} (hne : s ≠ []) (h : ∀ c ∈ s ++ places, c.isDigit = true) :
    Numeral (s ++ '.' :: places) (Nat.ofDigitChars 10 (s ++ places) 0) places.length

theorem isDigit_of_mem_toDigits {c : Char} (h : c ∈ Nat.toDigits 10 m) : c.isDigit = true :=
  Nat.isDigit_of_mem_toDigits (by decide) (by decide) h

theorem numeral_toDigits (m : Nat) : Numeral (Nat.toDigits 10 m) m 0 := by
  have h := Numeral.whole Nat.toDigits_ne_nil fun _ => isDigit_of_mem_toDigits (m := m)
  rwa [Nat.ofDigitChars_ten_toDigits] at h

theorem numeral_toDigits_point (m : Nat) : Numeral (Nat.toDigits 10 m ++ ['.']) m 0 := by
  have hdigits : ∀ c ∈ Nat.toDigits 10 m ++ [], c.isDigit = true := by
    rw [List.append_nil]
    exact fun _ => isDigit_of_mem_toDigits
  have h := Numeral.pointed Nat.toDigits_ne_nil hdigits
  rwa [List.append_nil, Nat.ofDigitChars_ten_toDigits] at h

/-- A point in front of the last `n` digits. -/
theorem numeral_take_drop (h : ∀ c ∈ s, c.isDigit = true) (hn : n < s.length) :
    Numeral (s.take (s.length - n) ++ '.' :: s.drop (s.length - n))
      (Nat.ofDigitChars 10 s 0) n := by
  have hne : s.take (s.length - n) ≠ [] := by
    apply List.ne_nil_of_length_pos
    rw [List.length_take]
    omega
  have hplaces : (s.drop (s.length - n)).length = n := by
    rw [List.length_drop]
    omega
  rw [← List.take_append_drop (s.length - n) s] at h
  have hpointed := Numeral.pointed hne h
  rwa [List.take_append_drop, hplaces] at hpointed

theorem placePoint_zero (hne : s ≠ []) : placePoint s 0 = s := by
  have hlen : 0 + 1 - s.length = 0 := by
    have := List.length_pos_iff.mpr hne
    omega
  simp [placePoint, hlen]

theorem numeral_placePoint (m n : Nat) : Numeral (placePoint (Nat.toDigits 10 m) n) m n := by
  by_cases hn : n = 0
  · subst hn
    rw [placePoint_zero Nat.toDigits_ne_nil]
    exact numeral_toDigits m
  · generalize hz : List.replicate (n + 1 - (Nat.toDigits 10 m).length) '0' = zeros
    have hdigits : ∀ c ∈ zeros ++ Nat.toDigits 10 m, c.isDigit = true := by
      refine List.forall_mem_append.mpr ⟨fun c hc => ?_, fun _ => isDigit_of_mem_toDigits⟩
      rw [← hz] at hc
      rw [List.eq_of_mem_replicate hc]
      rfl
    have hlen : n < (zeros ++ Nat.toDigits 10 m).length := by
      rw [List.length_append, ← hz, List.length_replicate]
      omega
    have hvalue : Nat.ofDigitChars 10 (zeros ++ Nat.toDigits 10 m) 0 = m := by
      rw [Nat.ofDigitChars_append, ← hz, Nat.ofDigitChars_replicate_zero, Nat.mul_zero,
        Nat.ofDigitChars_ten_toDigits]
    have h := numeral_take_drop hdigits hlen
    rw [hvalue, ← hz] at h
    rwa [placePoint, if_neg hn]

namespace Numeral

theorem isDigit_head (h : Numeral s m n) : ∀ c ∈ s.head?, c.isDigit = true := by
  cases h with
  | whole _ h => exact fun c hc => h c (List.mem_of_mem_head? hc)
  | pointed hne h =>
    intro c hc
    rw [List.head?_append, List.head?_eq_some_head hne, Option.some_or,
      ← List.head?_eq_some_head hne] at hc
    exact h c (List.mem_append_left _ (List.mem_of_mem_head? hc))

theorem ne_nil (h : Numeral s m n) : s ≠ [] := by
  cases h with
  | whole hne _ => exact hne
  | pointed hne _ => exact List.append_ne_nil_of_left_ne_nil hne _

/-- Digits and the point are among the characters from `-` to `9`. -/
theorem toNat_mem {c : Char} (h : Numeral s m n) (hc : c ∈ s) : 45 ≤ c.toNat ∧ c.toNat ≤ 57 := by
  have hdigit : ∀ {c : Char}, c.isDigit = true → 45 ≤ c.toNat ∧ c.toNat ≤ 57 := by
    intro c hc
    obtain ⟨hlo, hhi⟩ := Char.isDigit_iff_toNat.mp hc
    exact ⟨Nat.le_trans (by decide) hlo, hhi⟩
  cases h with
  | whole _ h => exact hdigit (h c hc)
  | pointed _ h =>
    obtain ⟨hs, hplaces⟩ := List.forall_mem_append.mp h
    rcases List.mem_append.mp hc with hc | hc
    · exact hdigit (hs c hc)
    · rcases List.mem_cons.mp hc with rfl | hc
      · decide
      · exact hdigit (hplaces c hc)

end Numeral

/-! ### Reading digits -/

theorem le_ofDigitChars (s : List Char) (m : Nat) : m ≤ Nat.ofDigitChars 10 s m := by
  rw [Nat.ofDigitChars_eq_ofDigitChars_zero]
  have := Nat.le_mul_of_pos_left m (Nat.pow_pos (n := s.length) (show 0 < 10 by decide))
  omega

/-- Digits in front of the point. -/
theorem readDigits_whole (h : ∀ c ∈ s, c.isDigit = true)
    (hbound : Nat.ofDigitChars 10 s m < bound) (started : Bool) (t : List Char) :
    readDigits started false m 0 (s ++ t) =
      readDigits (started || !s.isEmpty) false (Nat.ofDigitChars 10 s m) 0 t := by
  induction s generalizing started m with
  | nil => simp
  | cons c s ih =>
    obtain ⟨hc, hs⟩ := List.forall_mem_cons.mp h
    rw [Nat.ofDigitChars_cons] at hbound ⊢
    have hgrown := Nat.lt_of_le_of_lt (le_ofDigitChars s _) hbound
    rw [List.cons_append, readDigits, if_pos hc]
    simp only [Bool.not_false, if_true, if_pos hgrown]
    rw [ih hs hbound]
    simp

/-- Digits behind the point. -/
theorem readDigits_places (h : ∀ c ∈ s, c.isDigit = true)
    (hbound : Nat.ofDigitChars 10 s m < bound) (hn : n + s.length ≤ 28) :
    readDigits true true m n s = some (Nat.ofDigitChars 10 s m, n + s.length) := by
  induction s generalizing m n with
  | nil => rfl
  | cons c s ih =>
    obtain ⟨hc, hs⟩ := List.forall_mem_cons.mp h
    rw [Nat.ofDigitChars_cons] at hbound ⊢
    rw [List.length_cons] at hn ⊢
    have hgrown := Nat.lt_of_le_of_lt (le_ofDigitChars s _) hbound
    have hfits : n < 28 ∧ 10 * m + (c.toNat - '0'.toNat) < bound := ⟨by omega, hgrown⟩
    rw [readDigits, if_pos hc]
    simp only [Bool.not_true, Bool.false_eq_true, if_false, if_pos hfits]
    rw [ih hs hbound (by omega), Nat.add_assoc, Nat.add_comm 1]

theorem Numeral.readDigits_eq (h : Numeral s m n) (hm : m < bound) (hn : n ≤ 28) :
    readDigits false false 0 0 s = some (m, n) := by
  cases h with
  | whole hne h =>
    have hs := readDigits_whole h hm false []
    rw [List.append_nil] at hs
    simp [hs, readDigits, hne]
  | pointed hne h =>
    obtain ⟨hs, hplaces⟩ := List.forall_mem_append.mp h
    rw [Nat.ofDigitChars_append] at hm ⊢
    have hwhole := Nat.lt_of_le_of_lt (le_ofDigitChars _ _) hm
    have hstarted : (!List.isEmpty _) = true := congrArg (!·) (List.isEmpty_eq_false_iff.mpr hne)
    rw [readDigits_whole hs hwhole, hstarted, readDigits, if_neg (by decide), if_pos (by decide),
      Bool.or_true, readDigits_places hplaces hm (by omega), Nat.zero_add]

/-! ### Decimals -/

/-- The same decimal without the sign of zero. -/
def dropZeroSign (d : Decimal) : Decimal :=
  { d with negative := d.negative && d.mantissa != 0 }

/-- A negative zero with all places. -/
def negativeZero : Decimal :=
  { zero with negative := true, scale := 28, scale_le := Nat.le_refl 28 }

theorem signed_dropZeroSign (d : Decimal) : d.dropZeroSign.signed = d.signed := by
  rw [signed, signed, dropZeroSign]
  cases d.negative <;> by_cases h : d.mantissa = 0 <;> simp [h]

theorem value_dropZeroSign (d : Decimal) : d.dropZeroSign.value = d.value := by
  rw [value, value, signed_dropZeroSign]
  rfl

theorem signed_ofInt64 (n : Int64) : (ofInt64 n).signed = n.toInt := by
  rw [signed, ofInt64]
  simp only [decide_eq_true_eq]
  split <;> omega

theorem Numeral.readPlain?_eq (h : Numeral s d.mantissa d.scale) :
    readPlain? ((if d.negative then ['-'] else []) ++ s) = some d.dropZeroSign := by
  rw [readPlain?, Integer.sign_of_head h.isDigit_head]
  simp [h.readDigits_eq d.mantissa_lt d.scale_le, ofParts?, d.mantissa_lt, d.scale_le,
    dropZeroSign]

theorem Numeral.read?_eq (h : Numeral s d.mantissa d.scale) :
    read? ((if d.negative then ['-'] else []) ++ s) = some d.dropZeroSign := by
  rw [read?, h.readPlain?_eq]
  rfl

theorem readPlain?_eq_none {c : Char} (hdigit : c.isDigit = false) (hc : c ∉ ['.', '+', '-'])
    (s : List Char) : readPlain? (c :: s) = none := by
  obtain ⟨hpoint, hsign⟩ := not_or.mp (mt List.mem_cons.mpr hc)
  rw [readPlain?, Integer.sign_cons hsign]
  simp [readDigits, hdigit, hpoint]

/-- Every decimal begins with a digit, a sign or a point. -/
theorem read?_eq_none {c : Char} (hdigit : c.isDigit = false) (hc : c ∉ ['.', '+', '-'])
    (s : List Char) : read? (c :: s) = none := by
  have hbase (p : Char → Bool) : readPlain? ((c :: s).takeWhile p) = none := by
    rw [List.takeWhile_cons]
    split
    · exact readPlain?_eq_none hdigit hc _
    · rfl
  have hscientific : readScientific? (c :: s) = none := by
    rw [readScientific?, List.span_eq_takeWhile_dropWhile]
    split
    · rfl
    · next heq =>
      obtain ⟨rfl, -⟩ := Prod.mk.inj heq
      rw [hbase]
      rfl
  rw [read?, readPlain?_eq_none hdigit hc, hscientific]
  rfl

/-- A decimal is read from its text, up to the sign of zero. -/
theorem read?_text (d : Decimal) : read? d.text = some d.dropZeroSign :=
  (numeral_placePoint d.mantissa d.scale).read?_eq

theorem text_eq_of_scale (h : d.scale = 0) :
    d.text = (if d.negative then ['-'] else []) ++ Nat.toDigits 10 d.mantissa := by
  rw [text, h, placePoint_zero Nat.toDigits_ne_nil]

/-- A point at the end of a decimal without places changes nothing. -/
theorem read?_text_point (h : d.scale = 0) : read? (d.text ++ ['.']) = some d.dropZeroSign := by
  rw [text_eq_of_scale h, List.append_assoc]
  exact Numeral.read?_eq (by rw [h]; exact numeral_toDigits_point d.mantissa)

theorem toNat_mem_text {c : Char} (h : c ∈ d.text) : 45 ≤ c.toNat ∧ c.toNat ≤ 57 := by
  rcases List.mem_append.mp h with h | h
  · cases hnegative : d.negative with
    | true =>
      obtain rfl : c = '-' := by simpa [hnegative] using h
      decide
    | false => simp [hnegative] at h
  · exact (numeral_placePoint d.mantissa d.scale).toNat_mem h

theorem text_ne_nil (d : Decimal) : d.text ≠ [] :=
  List.append_ne_nil_of_right_ne_nil _ (numeral_placePoint d.mantissa d.scale).ne_nil

theorem point_mem_text (h : d.scale ≠ 0) : '.' ∈ d.text := by
  rw [text, placePoint, if_neg h]
  exact List.mem_append_right _ (List.mem_append_right _ List.mem_cons_self)

end Decimal

/-! ### Integers -/

namespace Integer

variable {s : List Char} {d : Decimal}

/-- An integer has digits and signs only. -/
theorem read?_eq_none_of_mem {c : Char} (hdigit : c.isDigit = false) (hc : c ∉ ['+', '-'])
    (h : c ∈ s) : read? s = none := by
  have hsign : c ∈ (sign s).2 := by
    rw [sign.eq_def]
    split <;> simp_all
  have hdigits : ¬((sign s).2 ≠ [] ∧ (sign s).2.all Char.isDigit = true) := fun hall => by
    cases hdigit.symm.trans (List.all_eq_true.mp hall.2 c hsign)
  rw [read?, readNat?, if_neg hdigits]
  rfl

/-- A decimal without places is written as an integer. -/
theorem read?_decimalText (h : d.scale = 0) : read? d.text = some d.signed := by
  have hdigits := Decimal.numeral_toDigits d.mantissa
  rw [Decimal.text_eq_of_scale h, read?, sign_of_head hdigits.isDigit_head,
    readNat?_of_digits Nat.toDigits_ne_nil fun _ => Decimal.isDigit_of_mem_toDigits,
    Nat.ofDigitChars_ten_toDigits]
  rfl

theorem text_toInt (n : Int64) : text n.toInt = (Decimal.ofInt64 n).text := by
  rw [Decimal.text_eq_of_scale rfl, text, Decimal.ofInt64]
  split <;> simp_all

theorem read?_text (n : Int64) : read? (text n.toInt) = some n.toInt := by
  rw [text_toInt, read?_decimalText rfl, Decimal.signed_ofInt64]

end Integer

end ConditionalTemplate
