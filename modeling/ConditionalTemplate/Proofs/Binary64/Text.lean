import ConditionalTemplate.Binary64.Printer
import ConditionalTemplate.Proofs.Binary64.Shortest
import ConditionalTemplate.Proofs.Decimal.Scientific

/-!
# The text of a double

A double is written as a JSON number with a fraction or an exponent (`exists_writes`). The double
nearest this number is the one that is written (`Writes.ofScientific?_eq`), and the number is read as
a decimal if it lies between the last place of the decimals and their bound (`Writes.exists_read?`).
-/

namespace ConditionalTemplate

/-- The number that a literal writes, without its sign. -/
def Json.Literal.value (l : Literal) : ℚ :=
  l.coefficient * 10 ^ (l.exponent.getD 0 - l.places)

namespace Binary64

open Json (Literal IsWhole FractionText ExponentText)

/-- A literal and its text as they are written of a double: with a fraction or an exponent, and an
exponent stands behind one digit other than zero. -/
structure Writes (l : Literal) (s : List Char) (x : ℚ) : Prop where
  spelled : l.Spelled s
  value : l.value = x
  marked : (l.fraction.isNone && l.exponent.isNone) = false
  coefficient_lt : l.coefficient < 10 ^ 18
  places_le : l.places ≤ 28
  exponent : ∀ z, l.exponent = some z → (10 : ℚ) ^ z ≤ x ∧ x < 10 ^ (z + 1)

variable {f : Binary64} {l : Literal} {s : List Char} {n : ℕ} {e point : ℤ}

/-! ### Digits -/

theorem isWhole_zero : IsWhole ['0'] :=
  ⟨nofun, by decide, fun _ => rfl⟩

theorem isWhole_toDigits_append (hn : 0 < n) (h : ∀ c ∈ s, c.isDigit = true) :
    IsWhole (Nat.toDigits 10 n ++ s) := by
  refine ⟨List.append_ne_nil_of_left_ne_nil Nat.toDigits_ne_nil _, ?_, fun hzero => ?_⟩
  · exact List.forall_mem_append.mpr ⟨fun c => Decimal.isDigit_of_mem_toDigits, h⟩
  · rw [List.head?_append, List.head?_eq_some_head Nat.toDigits_ne_nil, Option.some_or,
      ← List.head?_eq_some_head] at hzero
    exact absurd hzero (Text.head?_toDigits_ne hn)

theorem isDigit_of_mem_replicate {c : Char} {k : ℕ} (h : c ∈ List.replicate k '0') :
    c.isDigit = true := by
  rw [List.eq_of_mem_replicate h]
  rfl

theorem ofDigitChars_toDigits_zeros (n k : ℕ) :
    Nat.ofDigitChars 10 (Nat.toDigits 10 n ++ List.replicate k '0') 0 = n * 10 ^ k := by
  rw [Nat.ofDigitChars_append, Nat.ofDigitChars_ten_toDigits, Nat.ofDigitChars_replicate_zero,
    Nat.mul_comm]

/-! ### Plain notation -/

theorem writes_pointed {integer places : List Char} {x : ℚ} (hwhole : IsWhole integer)
    (hne : places ≠ []) (hplaces : ∀ c ∈ places, c.isDigit = true) (hlen : places.length ≤ 28)
    (hn : Nat.ofDigitChars 10 (integer ++ places) 0 = n) (hlt : n < 10 ^ 18)
    (hx : n * 10 ^ (-places.length : ℤ) = x) : ∃ l, Writes l (integer ++ '.' :: places) x := by
  refine ⟨⟨integer, some places, none⟩, ?_, ?_, rfl, hn.trans_lt hlt, hlen, nofun⟩
  · have hspelled := Literal.Spelled.mk hwhole (.present hne hplaces) .absent
    rwa [List.append_nil] at hspelled
  · have hcoefficient : Literal.coefficient ⟨integer, some places, none⟩ = n := hn
    rw [Literal.value, Option.getD_none, zero_sub, hcoefficient]
    exact hx

/-- All digits stand behind the point, after zeros. -/
theorem writes_below_one (hlt : n < 10 ^ 18) (hpoint : point = e + (Nat.toDigits 10 n).length)
    (hlo : -5 < point) (hle : point ≤ 0) :
    ∃ l, Writes l (['0'] ++ '.' :: (List.replicate (-point).toNat '0' ++ Nat.toDigits 10 n))
      (n * 10 ^ e) := by
  have hlen := Text.length_toDigits_le (by decide) hlt
  have hplaces : ((List.replicate (-point).toNat '0' ++ Nat.toDigits 10 n).length : ℤ) = -e := by
    rw [List.length_append, List.length_replicate]
    omega
  refine writes_pointed isWhole_zero ?_ ?_ (by omega) ?_ hlt ?_
  · exact List.append_ne_nil_of_right_ne_nil _ Nat.toDigits_ne_nil
  · exact List.forall_mem_append.mpr
      ⟨fun _ => isDigit_of_mem_replicate, fun _ => Decimal.isDigit_of_mem_toDigits⟩
  · rw [← List.append_assoc, ← List.replicate_one, List.replicate_append_replicate,
      Nat.ofDigitChars_append, Nat.ofDigitChars_replicate_zero, Nat.mul_zero,
      Nat.ofDigitChars_ten_toDigits]
  · rw [hplaces, neg_neg]

/-- All digits stand in front of the point, before zeros. -/
theorem writes_integer (hn : 0 < n) (k : ℕ) (hk : (Nat.toDigits 10 n).length + k ≤ 16) :
    ∃ l, Writes l (Nat.toDigits 10 n ++ List.replicate k '0' ++ '.' :: ['0']) (n * 10 ^ k) := by
  refine writes_pointed (n := n * 10 ^ (k + 1))
    (isWhole_toDigits_append hn fun _ => isDigit_of_mem_replicate) (List.cons_ne_nil _ _)
    (by decide) (by decide) ?_ ?_ ?_
  · rw [List.append_assoc, ← List.replicate_succ', ofDigitChars_toDigits_zeros]
  · calc n * 10 ^ (k + 1) < 10 ^ (Nat.toDigits 10 n).length * 10 ^ (k + 1) :=
        Nat.mul_lt_mul_of_pos_right (Text.lt_pow_length_toDigits n) (Nat.pow_pos (by decide))
      _ = 10 ^ ((Nat.toDigits 10 n).length + (k + 1)) := (pow_add _ _ _).symm
      _ ≤ 10 ^ 18 := Nat.pow_le_pow_right (by decide) (by omega)
  · push_cast
    rw [pow_succ]
    norm_num
    ring

/-- The point stands among the digits. -/
theorem writes_among (hn : 0 < n) (hlt : n < 10 ^ 18) {k : ℕ} (hpos : 0 < k)
    (hk : k < (Nat.toDigits 10 n).length) :
    ∃ l, Writes l ((Nat.toDigits 10 n).take k ++ '.' :: (Nat.toDigits 10 n).drop k)
      (n * 10 ^ (k - (Nat.toDigits 10 n).length : ℤ)) := by
  have hlen := Text.length_toDigits_le (by decide) hlt
  have hdigits : ∀ c ∈ Nat.toDigits 10 n, c.isDigit = true := fun _ =>
    Decimal.isDigit_of_mem_toDigits
  have hplaces : ((Nat.toDigits 10 n).drop k).length = (Nat.toDigits 10 n).length - k :=
    List.length_drop
  have hwhole : IsWhole ((Nat.toDigits 10 n).take k) := by
    refine ⟨?_, fun c hc => hdigits c (List.mem_of_mem_take hc), fun hzero => ?_⟩
    · apply List.ne_nil_of_length_pos
      rw [List.length_take]
      omega
    · rw [List.head?_take, if_neg hpos.ne'] at hzero
      exact absurd hzero (Text.head?_toDigits_ne hn)
  refine writes_pointed hwhole (List.ne_nil_of_length_pos (by omega))
    (fun c hc => hdigits c (List.mem_of_mem_drop hc)) (by omega) ?_ hlt ?_
  · rw [List.take_append_drop, Nat.ofDigitChars_ten_toDigits]
  · congr 2
    omega

theorem writes_plainText (hn : 0 < n) (hlt : n < 10 ^ 18)
    (hpoint : point = e + (Nat.toDigits 10 n).length) (hlo : -5 < point) (hhi : point ≤ 16) :
    ∃ l, Writes l (plainText (Nat.toDigits 10 n) point) (n * 10 ^ e) := by
  rw [plainText]
  split
  · next hle => exact writes_below_one hlt hpoint hlo hle
  · split
    · next hle =>
      obtain ⟨k, rfl⟩ := Int.eq_ofNat_of_zero_le (a := e) (by omega)
      have hk : point.toNat - (Nat.toDigits 10 n).length = k := by omega
      rw [hk, zpow_natCast]
      exact writes_integer hn k (by omega)
    · next hgt =>
      have he : e = point.toNat - (Nat.toDigits 10 n).length := by omega
      rw [he]
      exact writes_among hn hlt (by omega) (by omega)

/-! ### Scientific notation -/

theorem exponentText_spec (z : ℤ) : ExponentText (some z) (exponentText z) := by
  have hvalue := Nat.ofDigitChars_ten_toDigits (n := z.natAbs)
  have hdigits : ∀ c ∈ Nat.toDigits 10 z.natAbs, c.isDigit = true := fun c =>
    Decimal.isDigit_of_mem_toDigits
  refine .present (.inl rfl) ?_
  split
  · have hwritten := Integer.Written.minus Nat.toDigits_ne_nil hdigits
    have hz : -(z.natAbs : ℤ) = z := by omega
    rwa [hvalue, hz] at hwritten
  · have hwritten := Integer.Written.plus Nat.toDigits_ne_nil hdigits
    have hz : (z.natAbs : ℤ) = z := by omega
    rwa [hvalue, hz] at hwritten

theorem zpow_le_mul (hn : 0 < n) (hpoint : point = e + (Nat.toDigits 10 n).length) :
    (10 : ℚ) ^ (point - 1) ≤ n * 10 ^ e ∧ (n * 10 ^ e : ℚ) < 10 ^ point := by
  have hten : (0 : ℚ) < 10 ^ e := zpow_pos (by norm_num) e
  constructor
  · have hexponent : point - 1 = (Nat.toDigits 10 n).length - 1 + e := by omega
    rw [hexponent, zpow_add₀ (by norm_num)]
    exact mul_le_mul_of_nonneg_right (zpow_le_cast hn) hten.le
  · rw [hpoint, add_comm, zpow_add₀ (by norm_num)]
    exact mul_lt_mul_of_pos_right (cast_lt_zpow n) hten

theorem writes_exponent {d : Char} {fraction : Option (List Char)} (hn : 0 < n) (hlt : n < 10 ^ 18)
    (hpoint : point = e + (Nat.toDigits 10 n).length)
    (hfraction : FractionText fraction s) (hds : Nat.toDigits 10 n = d :: fraction.getD []) :
    ∃ l, Writes l (d :: (s ++ exponentText (point - 1))) (n * 10 ^ e) := by
  have hlen := Text.length_toDigits_le (by decide) hlt
  have hdigit : d.isDigit = true := by
    apply Decimal.isDigit_of_mem_toDigits (m := n)
    rw [hds]
    exact List.mem_cons_self
  have hwhole : IsWhole [d] :=
    ⟨nofun, List.forall_mem_singleton.mpr hdigit, fun h => congrArg ([·]) (Option.some.inj h)⟩
  have hcoefficient : Literal.coefficient ⟨[d], fraction, some (point - 1)⟩ = n := by
    rw [Literal.coefficient, List.singleton_append, ← hds, Nat.ofDigitChars_ten_toDigits]
  rw [hds, List.length_cons] at hlen hpoint
  refine ⟨⟨[d], fraction, some (point - 1)⟩, .mk hwhole hfraction (exponentText_spec _), ?_,
    Bool.and_false _, hcoefficient.trans_lt hlt, ?_, ?_⟩
  · have hexponent : point - 1 - (fraction.getD []).length = e := by omega
    rw [Literal.value, hcoefficient, Option.getD_some, Literal.places, hexponent]
  · show (fraction.getD []).length ≤ 28
    omega
  · rintro _ ⟨⟩
    rw [sub_add_cancel]
    apply zpow_le_mul hn
    rw [hds, List.length_cons, hpoint]

theorem writes_scientificText (hn : 0 < n) (hlt : n < 10 ^ 18)
    (hpoint : point = e + (Nat.toDigits 10 n).length) :
    ∃ l, Writes l (scientificText (Nat.toDigits 10 n) point) (n * 10 ^ e) := by
  have hdigits : ∀ c ∈ Nat.toDigits 10 n, c.isDigit = true := fun c =>
    Decimal.isDigit_of_mem_toDigits
  rw [scientificText.eq_def]
  split
  · next hds => exact absurd hds Nat.toDigits_ne_nil
  · next d hds => exact writes_exponent hn hlt hpoint .absent hds
  · next d rest hrest hds =>
    rw [hds] at hdigits
    exact writes_exponent hn hlt hpoint
      (.present hrest (List.forall_mem_cons.mp hdigits).2) hds

/-! ### Doubles -/

theorem eq_zero_of_mantissa (hm : f.mantissa = 0) : f = zero f.negative := by
  obtain ⟨negative, mantissa, power, _, _, hnormal⟩ := f
  obtain rfl : mantissa = 0 := hm
  obtain rfl : power = 0 := hnormal.resolve_left (by decide)
  rfl

/-- The number that is written of a double, without its sign. -/
def textValue (f : Binary64) : ℚ :=
  if f.mantissa = 0 then 0 else f.shortestValue

/-- Every double is written as a number with a fraction or an exponent. -/
theorem exists_writes (f : Binary64) : ∃ l, Writes l f.magnitudeText f.textValue := by
  rw [magnitudeText, textValue]
  split
  · exact writes_pointed (n := 0) isWhole_zero (List.cons_ne_nil _ _) (by decide) (by decide)
      (by decide) (by decide) (by norm_num)
  · next hm =>
    have hpos := shortest_pos hm
    have hlt := shortest_lt hm
    rw [shortestValue]
    generalize f.shortest = digits at *
    obtain ⟨n, e⟩ := digits
    dsimp only at *
    split
    · next h => exact writes_plainText hpos hlt rfl h.1 h.2
    · exact writes_scientificText hpos hlt rfl

/-- A double is the one nearest the number that is written of it. -/
theorem Writes.ofScientific?_eq (h : Writes l s f.textValue) :
    ofScientific? f.negative l.coefficient (l.exponent.getD 0 - l.places) = some f := by
  have hvalue := h.value
  rw [Literal.value, textValue] at hvalue
  split at hvalue
  · next hm =>
    have hcoefficient : l.coefficient = 0 := by
      have hten : (10 : ℚ) ^ (l.exponent.getD 0 - l.places) ≠ 0 := zpow_ne_zero _ (by norm_num)
      exact Nat.cast_eq_zero.mp ((mul_eq_zero.mp hvalue).resolve_right hten)
    rw [hcoefficient, eq_zero_of_mantissa hm]
    rfl
  · next hm => exact ofScientific?_eq_some hm (hvalue ▸ mem_shortestValue hm)

/-! ### Decimals -/

/-- Zero, or a magnitude from `10 ^ -28` on and below `2 ^ 96`. The bound below is a double itself,
the one nearest `10 ^ -28`. -/
def InDecimalRange (f : Binary64) : Prop :=
  f.mantissa = 0 ∨ lastPlace.magnitude ≤ f.magnitude ∧ f.magnitude < 2 ^ 96 * one

theorem InDecimalRange.textValue (h : f.InDecimalRange) (hne : f.textValue ≠ 0) :
    (10 : ℚ) ^ (-28 : ℤ) ≤ f.textValue ∧ f.textValue < Decimal.bound := by
  have hm : f.mantissa ≠ 0 := fun hzero => hne (if_pos hzero)
  obtain ⟨hlo, hhi⟩ := h.resolve_left hm
  have hbound : ((2 : ℚ) ^ 96) = Decimal.bound := by norm_num
  rw [Binary64.textValue, if_neg hm]
  exact ⟨zpow_le_shortestValue hlo, hbound ▸ shortestValue_lt hm hhi⟩

/-- A number in the range of the decimals is read as one. -/
theorem Writes.exists_read? {x : ℚ} (h : Writes l s x)
    (hx : x ≠ 0 → (10 : ℚ) ^ (-28 : ℤ) ≤ x ∧ x < Decimal.bound) (negative : Bool) :
    ∃ d, ∀ t, l.Spelled t → Decimal.read? ((if negative then ['-'] else []) ++ t) = some d := by
  have hm : l.coefficient < Decimal.bound := h.coefficient_lt.trans (by decide)
  have hsome : ((l.toDecimal negative hm h.places_le).dropZeroSign.shift?
      (l.exponent.getD 0)).isSome = true := by
    cases hexponent : l.exponent with
    | none =>
      rw [Option.getD_none, Decimal.shift?_zero]
      rfl
    | some z =>
      obtain ⟨hlo, hhi⟩ := h.exponent z hexponent
      have hpos : (0 : ℚ) < 10 ^ z := zpow_pos (by norm_num) z
      obtain ⟨hmin, hmax⟩ := hx (hpos.trans_le hlo).ne'
      have hmost : ((Decimal.bound : ℕ) : ℚ) ≤ 10 ^ (29 : ℤ) := by norm_num
      have hlow := (zpow_lt_zpow_iff_right₀ (by norm_num)).mp (hmin.trans_lt hhi)
      have hhigh := (zpow_lt_zpow_iff_right₀ (by norm_num)).mp (hlo.trans_lt (hmax.trans_le hmost))
      rw [Option.getD_some]
      refine Decimal.isSome_shift? (by omega) (by omega) ?_
      have hvalue := h.value
      rw [Literal.value, hexponent] at hvalue
      exact hvalue.trans_lt hmax
  obtain ⟨d, hd⟩ := Option.isSome_iff_exists.mp hsome
  exact ⟨d, fun t ht => (ht.read?_eq hm h.places_le negative).trans hd⟩

end Binary64

end ConditionalTemplate
