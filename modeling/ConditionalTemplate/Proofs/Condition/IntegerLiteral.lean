import ConditionalTemplate.Proofs.Condition.Literal
import ConditionalTemplate.Proofs.Value.Number

/-!
# Integers and decimals without places

An integer and the decimal with its digits and no places are brought to every kind with the same
result (`coerceLike_ofInt64`). A text that writes an integer of 64 bits is read as this decimal too
(`read?_of_written`). So nothing depends on where the integers among the literals end and the
decimals begin (`satisfies_integerLiteral`).
-/

namespace ConditionalTemplate

open Integer (Written)

/-! ### The decimal of an integer -/

namespace Decimal

variable {s : List Char} {n : Int64} {z : Int}

theorem ofParts?_ofInt64 (n : Int64) :
    ofParts? (decide (n.toInt < 0)) n.toInt.natAbs 0 = some (ofInt64 n) :=
  dif_pos ⟨(ofInt64 n).mantissa_lt, (ofInt64 n).scale_le⟩

/-- The digits of an integer are read as a decimal, whatever sign is in front of them. -/
theorem readPlain?_of_digits (hsign : (Integer.sign s).2 ≠ [])
    (hdigits : ∀ c ∈ (Integer.sign s).2, c.isDigit = true)
    (hmantissa : Nat.ofDigitChars 10 (Integer.sign s).2 0 = n.toInt.natAbs)
    (hnegative : ((Integer.sign s).1 && n.toInt.natAbs != 0) = decide (n.toInt < 0)) :
    readPlain? s = some (ofInt64 n) := by
  have hread := (Numeral.whole hsign hdigits).readDigits_eq
    (hmantissa.trans_lt (ofInt64 n).mantissa_lt) (Nat.zero_le 28)
  rw [readPlain?, hread, hmantissa]
  show ofParts? ((Integer.sign s).1 && n.toInt.natAbs != 0) n.toInt.natAbs 0 = _
  rw [hnegative, ofParts?_ofInt64]

theorem read?_of_written (h : Written s z) (hz : n.toInt = z) : read? s = some (ofInt64 n) := by
  have hplain : readPlain? s = some (ofInt64 n) := by
    cases h with
    | plain hne h =>
      have hsign := Integer.sign_of_digits h
      refine readPlain?_of_digits ?_ ?_ ?_ ?_ <;> rw [hsign]
      · exact hne
      · exact h
      · rw [hz, Int.natAbs_natCast]
      · rw [Bool.false_and, eq_comm, decide_eq_false_iff_not]
        omega
    | plus hne h =>
      refine readPlain?_of_digits hne h ?_ ?_
      · rw [hz, Int.natAbs_natCast]
        rfl
      · show (false && _) = _
        rw [Bool.false_and, eq_comm, decide_eq_false_iff_not]
        omega
    | minus hne h =>
      refine readPlain?_of_digits hne h ?_ ?_
      · rw [hz, Int.natAbs_neg, Int.natAbs_natCast]
        rfl
      · show (true && _) = _
        rw [Bool.true_and, Bool.eq_iff_iff, bne_iff_ne, decide_eq_true_eq]
        omega
  rw [read?, hplain]
  rfl

theorem isZero_ofInt64 (n : Int64) : (ofInt64 n).isZero = (n == 0) := by
  have hzero : n.toInt = 0 ↔ n = 0 := by
    rw [← Int64.toInt_inj]
    rfl
  rw [Bool.eq_iff_iff, isZero, beq_iff_eq, beq_iff_eq, ← hzero]
  exact Int.natAbs_eq_zero

theorem round_ofInt64 (n : Int64) : (ofInt64 n).round = n.toInt :=
  round_eq_of_value (value_ofInt64 n)

end Decimal

namespace Value

theorem display_ofInt64 (n : Int64) : (decimal (.ofInt64 n)).display = (int n).display := by
  rw [display, display, displayText, displayText, Integer.text_toInt]

/-- No kind of value tells the two from each other. -/
theorem coerceLike_ofInt64 (n : Int64) (target : Value) :
    (decimal (.ofInt64 n)).coerceLike target = (int n).coerceLike target := by
  cases target with
  | null | sequence => rfl
  | bool b =>
    show (some (!(Decimal.ofInt64 n).isZero)).map bool = _
    rw [Decimal.isZero_ofInt64]
    rfl
  | int m =>
    show (Integer.ofInt64? (Decimal.ofInt64 n).round).map int = _
    rw [Decimal.round_ofInt64, Integer.ofInt64?_toInt]
    rfl
  | decimal d => rfl
  | text t => exact congrArg (fun s => some (text s)) (display_ofInt64 n)

theorem satisfies_ofInt64 (left : Value) (n : Int64) (c : Comparison) :
    left.satisfies (decimal (.ofInt64 n)) c = left.satisfies (int n) c := by
  rw [satisfies, coerceLike_ofInt64, satisfies]

end Value

/-! ### Literals -/

namespace Literal

variable {s : List Char} {n : Int64}

theorem readInt?_of_read (h : read s = .int n) : readInt? s = some n := by
  rw [read] at h
  split at h
  · cases h
  · split at h
    · cases h
    · split at h
      · next hn =>
        cases h
        exact hn
      · split at h <;> cases h

theorem not_mem_of_written {c : Char} {z : Int} (h : Written s z) (hdigit : c.isDigit = false)
    (hc : c ∉ ['+', '-']) : c ∉ s := by
  intro hmem
  cases (Integer.read?_eq_none_of_mem hdigit hc hmem).symm.trans h.read?_eq

theorem readDecimal?_of_written (h : Written s n.toInt) :
    readDecimal? s = some (.ofInt64 n) := by
  have hscore : s.contains '_' = false := by
    simpa using not_mem_of_written h rfl (by decide)
  rw [readDecimal?, hscore, if_neg Bool.false_ne_true, Decimal.read?_of_written h rfl]

/-- An integer that does not fit 32 bits is read as a decimal. -/
theorem read_of_written (h : Written s n.toInt) :
    read s = .int n ∨ read s = .decimal (.ofInt64 n) := by
  have hhead : ∀ c ∈ s.head?, c.toNat ≤ 57 := by
    have hdigit {t : List Char} (ht : ∀ c ∈ t, c.isDigit = true) : ∀ c ∈ t.head?, c.toNat ≤ 57 :=
      fun c hc => (Char.isDigit_iff_toNat.mp (ht c (List.mem_of_mem_head? hc))).2
    generalize n.toInt = z at h
    cases h with
    | plain _ h => exact hdigit h
    | plus | minus =>
      rintro _ ⟨⟩
      decide
  rw [read_of_head hhead (not_mem_of_written h rfl (by decide))]
  cases hint : readInt? s with
  | some m =>
    have hm := (readInt?_eq_some_iff.mp hint).1
    rw [h.read?_eq, Option.some.injEq, Int64.toInt_inj] at hm
    exact .inl (congrArg _ hm.symm)
  | none =>
    rw [Decimal.read?_of_written h rfl]
    exact .inr rfl

/-- An integer literal compares as the decimal that is read from the same text, and so does every
integer of 64 bits as its decimal without places. A condition that compares with a written integer
of 64 bits is therefore the same condition whether the literal is read as an integer or not. -/
theorem satisfies_integerLiteral :
    (∀ (s : List Char) (n : Int64), read s = .int n →
      ∃ d, readDecimal? s = some d ∧
        ∀ (left : Value) (c : Comparison),
          left.satisfies (read s) c = left.satisfies (.decimal d) c) ∧
    (∀ (n : Int64) (left : Value) (c : Comparison),
      left.satisfies (.int n) c = left.satisfies (.decimal (.ofInt64 n)) c) ∧
    ∀ (s : List Char) (n : Int64), Written s n.toInt →
      ∀ (key : String) (c : Comparison) (r : Record),
        (Condition.compare key c (read s)).holds r = (Condition.compare key c (.int n)).holds r ∧
        (Condition.compare key c (read s)).holds r =
          (Condition.compare key c (.decimal (.ofInt64 n))).holds r := by
  refine ⟨fun s n h => ?_, fun n left c => (left.satisfies_ofInt64 n c).symm,
    fun s n h key c r => ?_⟩
  · have hread := (readInt?_eq_some_iff.mp (readInt?_of_read h)).1
    refine ⟨.ofInt64 n, readDecimal?_of_written (Integer.written_of_read? hread), fun left c => ?_⟩
    rw [h, Value.satisfies_ofInt64]
  · have hsame := (Record.get r key).satisfies_ofInt64 n c
    rcases read_of_written h with hread | hread
    · rw [hread]
      exact ⟨rfl, hsame.symm⟩
    · rw [hread]
      exact ⟨hsame, rfl⟩

theorem satisfies_integerLiteral_padded :
    (read "-007".toList = .int (-7) ∧
      ∃ d, readDecimal? "-007".toList = some d ∧
        ∀ (left : Value) (c : Comparison),
          left.satisfies (read "-007".toList) c = left.satisfies (.decimal d) c) ∧
    Written "-9223372036854775808".toList Int64.minValue.toInt ∧
      ∀ (key : String) (c : Comparison) (r : Record),
        (Condition.compare key c (read "-9223372036854775808".toList)).holds r =
            (Condition.compare key c (.int Int64.minValue)).holds r ∧
          (Condition.compare key c (read "-9223372036854775808".toList)).holds r =
            (Condition.compare key c (.decimal (.ofInt64 Int64.minValue))).holds r := by
  have hread : read "-007".toList = .int (-7) := rfl
  have hwritten : Written "-9223372036854775808".toList Int64.minValue.toInt :=
    Integer.written_of_read? (by decide)
  exact ⟨⟨hread, satisfies_integerLiteral.1 _ _ hread⟩, hwritten,
    satisfies_integerLiteral.2.2 _ _ hwritten⟩

end Literal

end ConditionalTemplate
