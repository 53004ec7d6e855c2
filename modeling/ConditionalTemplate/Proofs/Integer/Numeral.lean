import ConditionalTemplate.Integer
import Mathlib.Algebra.Ring.Int.Defs

/-!
# Integers in text and in 64 bits

`Written s z`: the text `s` writes the integer `z`, with a sign or without. The reader takes exactly
such texts (`read?_eq_some_iff`). The integers that fit 64 bits are brought there without change
(`ofInt64?_eq_some_iff`), the others not at all (`ofInt64?_eq_none_iff`).
-/

namespace ConditionalTemplate.Integer

/-- Digits, at least one of them, behind a sign or without one. -/
inductive Written : List Char → Int → Prop where
  | plain {s : List Char} (hne : s ≠ []) (h : ∀ c ∈ s, c.isDigit = true) :
    Written s (Nat.ofDigitChars 10 s 0)
  | plus {s : List Char} (hne : s ≠ []) (h : ∀ c ∈ s, c.isDigit = true) :
    Written ('+' :: s) (Nat.ofDigitChars 10 s 0)
  | minus {s : List Char} (hne : s ≠ []) (h : ∀ c ∈ s, c.isDigit = true) :
    Written ('-' :: s) (-Nat.ofDigitChars 10 s 0)

variable {s : List Char} {z : Int} {n : Int64} {k : Nat}

theorem readNat?_eq_some_iff : readNat? s = some k ↔
    s ≠ [] ∧ (∀ c ∈ s, c.isDigit = true) ∧ Nat.ofDigitChars 10 s 0 = k := by
  simp only [readNat?, List.all_eq_true]
  split
  · next h => simp [← and_assoc, and_iff_right h]
  · next h => simp [← and_assoc, h]

theorem sign_of_digits (h : ∀ c ∈ s, c.isDigit = true) : sign s = (false, s) := by
  rw [sign.eq_def]
  split
  · cases h '-' List.mem_cons_self
  · cases h '+' List.mem_cons_self
  · rfl

theorem Written.read?_eq (h : Written s z) : read? s = some z := by
  cases h with
  | plain hne h =>
    rw [read?, sign_of_digits h, readNat?_eq_some_iff.mpr ⟨hne, h, rfl⟩]
    rfl
  | plus hne h =>
    rw [read?, sign, readNat?_eq_some_iff.mpr ⟨hne, h, rfl⟩]
    rfl
  | minus hne h =>
    rw [read?, sign, readNat?_eq_some_iff.mpr ⟨hne, h, rfl⟩]
    rfl

theorem written_of_read? (h : read? s = some z) : Written s z := by
  have hread : ∃ k, readNat? (sign s).2 = some k ∧ (if (sign s).1 then -(k : Int) else k) = z := by
    simpa [read?, Option.bind_eq_some_iff] using h
  obtain ⟨k, hk, rfl⟩ := hread
  obtain ⟨hne, hdigits, rfl⟩ := readNat?_eq_some_iff.mp hk
  revert hne hdigits
  rw [sign.eq_def]
  split <;> intro hne hdigits
  · exact .minus hne hdigits
  · exact .plus hne hdigits
  · exact .plain hne hdigits

theorem read?_eq_some_iff : read? s = some z ↔ Written s z :=
  ⟨written_of_read?, Written.read?_eq⟩

/-! ### Integers of 64 bits -/

def FitsInt64 (z : Int) : Prop :=
  Int64.minValue.toInt ≤ z ∧ z ≤ Int64.maxValue.toInt

instance (z : Int) : Decidable (FitsInt64 z) :=
  inferInstanceAs (Decidable (_ ∧ _))

theorem fitsInt64_iff : FitsInt64 z ↔ -2 ^ 63 ≤ z ∧ z < 2 ^ 63 := by
  have hmin : Int64.minValue.toInt = -2 ^ 63 := by decide
  have hmax : Int64.maxValue.toInt = 2 ^ 63 - 1 := by decide
  rw [FitsInt64]
  omega

theorem fitsInt64_toInt (n : Int64) : FitsInt64 n.toInt :=
  fitsInt64_iff.mpr ⟨n.le_toInt, n.toInt_lt⟩

theorem ofInt64?_toInt (n : Int64) : ofInt64? n.toInt = some n := by
  have hn := fitsInt64_toInt n
  rw [FitsInt64] at hn
  rw [ofInt64?, if_pos hn, Int64.ofInt_toInt]

theorem ofInt64?_eq_none_iff : ofInt64? z = none ↔ ¬FitsInt64 z := by
  simp [ofInt64?, FitsInt64]

theorem FitsInt64.exists_toInt (h : FitsInt64 z) : ∃ n : Int64, n.toInt = z := by
  obtain ⟨hlo, hhi⟩ := fitsInt64_iff.mp h
  exact ⟨Int64.ofInt z, Int64.toInt_ofInt_of_le hlo hhi⟩

theorem ofInt64?_eq_some_iff : ofInt64? z = some n ↔ n.toInt = z := by
  constructor
  · intro h
    by_cases hz : FitsInt64 z
    · obtain ⟨m, rfl⟩ := hz.exists_toInt
      rw [ofInt64?_toInt] at h
      exact congrArg Int64.toInt (Option.some.inj h).symm
    · cases h.symm.trans (ofInt64?_eq_none_iff.mpr hz)
  · rintro rfl
    exact ofInt64?_toInt n

end ConditionalTemplate.Integer
