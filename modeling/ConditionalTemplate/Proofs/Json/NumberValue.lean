import ConditionalTemplate.Json.Value
import ConditionalTemplate.Proofs.Decimal.OfBinary

/-!
# The values of JSON numbers

Every number of JSON becomes a number (`toValue_read`). An integer stays what it is, as an integer
or as a decimal (`exists_int_of_integer?`, `exists_decimal_of_integer?`). What is read as a double
becomes the decimal that its shortest text writes, as far as there is one (`Binary64.Converted`).
-/

namespace ConditionalTemplate.Json

variable {l : Literal} {s : List Char} {negative : Bool} {z : ℤ}

/-! ### Integers -/

theorem Literal.coefficient_of_isInteger (h : (l.fraction.isNone && l.exponent.isNone) = true) :
    l.coefficient = Nat.ofDigitChars 10 l.integer 0 := by
  rw [Bool.and_eq_true] at h
  rw [coefficient, Option.isNone_iff_eq_none.mp h.1, Option.getD_none, List.append_nil]

theorem Literal.number?_natural (h : (l.fraction.isNone && l.exponent.isNone) = true)
    (hlt : l.coefficient < 2 ^ 64) :
    l.number? false = some (.natural (UInt64.ofNat l.coefficient)) := by
  rw [coefficient_of_isInteger h] at hlt ⊢
  rw [number?, h]
  exact if_pos (by simpa using hlt)

theorem Literal.number?_negative (h : (l.fraction.isNone && l.exponent.isNone) = true)
    (hpos : 0 < l.coefficient) (hle : l.coefficient ≤ 2 ^ 63) :
    l.number? true = some (.negative (Int64.ofInt (-l.coefficient))) := by
  rw [coefficient_of_isInteger h] at hpos hle ⊢
  rw [number?, h, if_neg (by simp)]
  exact if_pos (by simpa [hpos] using hle)

/-- The integer that a literal writes without a fraction and an exponent. Minus zero is none. -/
def Literal.integer? (l : Literal) (negative : Bool) : Option ℤ :=
  if l.fraction.isNone && l.exponent.isNone && !(negative && l.coefficient == 0) then
    some (if negative then -l.coefficient else l.coefficient)
  else none

/-- A natural number is written without a sign, a negative one with it. -/
theorem Literal.integer?_cases (h : l.integer? negative = some z) :
    (l.fraction.isNone && l.exponent.isNone) = true ∧
      (negative = false ∧ z = l.coefficient ∨
        negative = true ∧ 0 < l.coefficient ∧ z = -l.coefficient) := by
  rw [integer?] at h
  split at h
  · next hint =>
    rw [Bool.and_eq_true] at hint
    obtain rfl := Option.some.inj h
    refine ⟨hint.1, ?_⟩
    cases negative with
    | false => exact .inl ⟨rfl, rfl⟩
    | true =>
      have hpos : 0 < l.coefficient := Nat.pos_of_ne_zero (by simpa using hint.2)
      exact .inr ⟨rfl, hpos, rfl⟩
  · cases h

/-- What is no integer of 64 bits is read as a double. -/
theorem Literal.number?_eq_double?
    (h : ∀ z, l.integer? negative = some z → z < -2 ^ 63 ∨ 2 ^ 64 ≤ z) :
    l.number? negative = (l.double? negative).map .double := by
  cases hint : l.fraction.isNone && l.exponent.isNone with
  | false =>
    rw [number?, hint]
    rfl
  | true =>
    have hcoefficient := coefficient_of_isInteger hint
    rw [number?, hint, ← hcoefficient]
    cases negative with
    | false =>
      have hz := h l.coefficient (by rw [integer?, hint]; rfl)
      have hge : ¬ l.coefficient < UInt64.size := by
        have hsize : UInt64.size = 2 ^ 64 := rfl
        omega
      simp [hge]
    | true =>
      rcases Nat.eq_zero_or_pos l.coefficient with hzero | hpos
      · simp [hzero]
      · have hz := h (-l.coefficient) (by simp [integer?, hint, hpos.ne'])
        have hlt : 9223372036854775808 < l.coefficient := by omega
        simp [hlt]

/-! ### Values -/

section

variable [c : BinaryConversion]

theorem Number.toValue_natural_of_lt {n : ℕ} (hn : n < 2 ^ 63) :
    ∃ i : Int64, (Number.natural (UInt64.ofNat n)).toValue = .int i ∧ i.toInt = n := by
  have hexact : (UInt64.ofNat n).toNat = n := UInt64.toNat_ofNat_of_lt' (hn.trans (by decide))
  obtain ⟨i, hi⟩ := (Integer.fitsInt64_iff (z := n)).mpr (by omega) |>.exists_toInt
  refine ⟨i, ?_, hi⟩
  rw [toValue, hexact, Integer.ofInt64?_eq_some_iff.mpr hi]

theorem Number.toValue_natural_of_le {n : ℕ} (hle : 2 ^ 63 ≤ n) (hlt : n < 2 ^ 64) :
    ∃ d : Decimal, (Number.natural (UInt64.ofNat n)).toValue = .decimal d ∧ d.value = n := by
  have hexact : (UInt64.ofNat n).toNat = n := UInt64.toNat_ofNat_of_lt' hlt
  have hnone : Integer.ofInt64? n = none := by
    rw [Integer.ofInt64?_eq_none_iff, Integer.fitsInt64_iff]
    omega
  refine ⟨.ofUInt64 (UInt64.ofNat n), by rw [toValue, hexact, hnone], ?_⟩
  have hsigned : (Decimal.ofUInt64 (UInt64.ofNat n)).signed = n := congrArg Nat.cast hexact
  rw [Decimal.value, hsigned, Int.cast_natCast]
  exact div_one _

theorem exists_int_of_integer? (h : l.integer? negative = some z) (hlo : -2 ^ 63 ≤ z)
    (hhi : z < 2 ^ 63) :
    ∃ m n, l.number? negative = some m ∧ m.toValue = .int n ∧ n.toInt = z := by
  obtain ⟨hint, ⟨rfl, rfl⟩ | ⟨rfl, hpos, rfl⟩⟩ := Literal.integer?_cases h
  · obtain ⟨n, hn, hvalue⟩ := Number.toValue_natural_of_lt (n := l.coefficient) (by omega)
    exact ⟨_, n, Literal.number?_natural hint (by omega), hn, hvalue⟩
  · exact ⟨_, _, Literal.number?_negative hint hpos (by omega), rfl,
      Int64.toInt_ofInt_of_le hlo hhi⟩

theorem exists_decimal_of_integer? (h : l.integer? negative = some z) (hlo : 2 ^ 63 ≤ z)
    (hhi : z < 2 ^ 64) :
    ∃ m d, l.number? negative = some m ∧ m.toValue = .decimal d ∧ d.value = z := by
  obtain ⟨hint, ⟨rfl, rfl⟩ | ⟨rfl, hpos, rfl⟩⟩ := Literal.integer?_cases h
  · have hlt : l.coefficient < 2 ^ 64 := by omega
    obtain ⟨d, hd, hvalue⟩ := Number.toValue_natural_of_le (by omega) hlt
    exact ⟨_, d, Literal.number?_natural hint hlt, hd, by rw [hvalue, Int.cast_natCast]⟩
  · omega

end

end ConditionalTemplate.Json
