import ConditionalTemplate.Proofs.Binary64.Range
import ConditionalTemplate.Proofs.Decimal.Tiny
import ConditionalTemplate.Proofs.Json.Member

/-!
# Decimals of doubles

A double becomes the decimal that its shortest text is read as. It is as near to the number of the
text as 28 places allow (`Writes.isRounded`). Beyond the decimals the text cannot be read, and the
double becomes the largest or the least decimal; below the last place it becomes zero or one unit of
it, whether the text can be read or not (`exists_converted`).

Little has to be known for this of the conversion by binary digits (`BinaryConversion.Faithful`): it
is asked only outside the range of the decimals.
-/

namespace ConditionalTemplate

open Json (Literal)

/-! ### Numbers in text -/

namespace Json

variable {w s : List Char} {x y : ℚ} {l l' : Literal}

theorem Literal.Spelled.eq_of_spelled (h : l.Spelled s) (h' : l'.Spelled s) : l = l' := by
  have hread : readLiteral .endInValue (s ++ []) = .ok (l, []) := h.readLiteral_eq (by simp)
  rw [h'.readLiteral_eq (by simp)] at hread
  exact (Prod.mk.inj (Except.ok.inj hread)).1.symm

/-- The text writes the number, in the notation of JSON. -/
def Denotes (w : List Char) (x : ℚ) : Prop :=
  ∃ (negative : Bool) (l : Literal) (s : List Char), l.Spelled s ∧
    w = (if negative then ['-'] else []) ++ s ∧ x = if negative then -l.value else l.value

theorem Literal.Spelled.ne_minus_cons (h : l.Spelled s) (t : List Char) : s ≠ '-' :: t := by
  rintro rfl
  obtain ⟨c, t', ht, hc⟩ := h.exists_cons
  cases ht
  cases hc

theorem Denotes.unique (h : Denotes w x) (h' : Denotes w y) : x = y := by
  obtain ⟨negative, l, s, hl, rfl, rfl⟩ := h
  obtain ⟨negative', l', s', hl', he, rfl⟩ := h'
  obtain rfl : negative = negative' := by
    cases negative with
    | true =>
      cases negative' with
      | true => rfl
      | false => exact absurd he.symm (hl'.ne_minus_cons s)
    | false =>
      cases negative' with
      | true => exact absurd he (hl.ne_minus_cons s')
      | false => rfl
  obtain rfl := List.append_cancel_left he
  rw [hl.eq_of_spelled hl']

end Json

/-! ### Binary digits -/

/-- What is known of a conversion by binary digits. -/
structure BinaryConversion.Faithful (c : BinaryConversion) : Prop where
  /-- Below the last place the mantissa is halved. -/
  tiny : ∀ f, 0 < |f.value| → |f.value| < 10 ^ (-28 : ℤ) → c.decimal? f = Decimal.ofHalved? f
  /-- Doubles that need more than 96 bits have no decimal. -/
  beyond : ∀ f, 2 ^ 96 < |f.value| → c.decimal? f = none
  sign : ∀ f d, c.decimal? f = some d → d.negative = f.negative

namespace Binary64

variable {f : Binary64}

/-- From this power on a double is a natural number. -/
theorem abs_value_of_le_power (h : 1074 ≤ f.power) :
    |f.value| = (f.mantissa * Nat.pow 2 (f.power - 1074) : ℕ) := by
  obtain ⟨k, hk, hone⟩ := exists_one_eq_pow
  rw [hk] at h ⊢
  have hmagnitude : f.magnitude = f.mantissa * Nat.pow 2 (f.power - k) * one := by
    rw [magnitude, hone, Nat.mul_assoc, Nat.pow_eq, Nat.pow_eq, ← pow_add, Nat.sub_add_cancel h]
  rw [abs_value, hmagnitude, Nat.cast_mul, mul_div_cancel_right₀ _ cast_one_pos.ne']

theorem abs_value_lt_of_power_lt (h : f.power < 1074) : |f.value| < 2 ^ 53 := by
  obtain ⟨k, hk, hone⟩ := exists_one_eq_pow
  have hmagnitude : f.magnitude < 2 ^ 53 * one := by
    rw [magnitude, hone, Nat.pow_eq]
    calc f.mantissa * 2 ^ f.power ≤ f.mantissa * 2 ^ k :=
          Nat.mul_le_mul_left _ (Nat.pow_le_pow_right two_pos (by omega))
      _ < 2 ^ 53 * 2 ^ k := Nat.mul_lt_mul_of_pos_right f.mantissa_lt (Nat.two_pow_pos k)
  rw [abs_value, div_lt_iff₀ cast_one_pos]
  exact_mod_cast hmagnitude

end Binary64

namespace Decimal

variable {f : Binary64} {negative : Bool} {m k : ℕ} {d : Decimal}

theorem negative_of_ofParts? (h : ofParts? negative m k = some d) : d.negative = negative := by
  rw [ofParts?] at h
  split at h
  · rw [← Option.some.inj h]
  · cases h

theorem ofDoubled?_eq_none (hpower : 1074 ≤ f.power) (h : 2 ^ 96 < |f.value|) :
    ofDoubled? f = none := by
  rw [Binary64.abs_value_of_le_power hpower] at h
  have hbound : bound < f.mantissa * Nat.pow 2 (f.power - 1074) := by exact_mod_cast h
  rw [ofDoubled?, ofParts?, dif_neg]
  exact fun hfits => absurd hfits.1 hbound.not_gt

theorem decimal?_eq (f : Binary64) :
    binaryConversion.decimal? f = if f.power < 1074 then ofHalved? f else ofDoubled? f := rfl

/-- Halving and doubling are such a conversion. -/
theorem faithful_binaryConversion : binaryConversion.Faithful where
  tiny f hpos h := by
    rw [decimal?_eq, if_pos]
    by_contra hpower
    rw [Binary64.abs_value_of_le_power (not_lt.mp hpower)] at hpos h
    have hone : (1 : ℚ) ≤ (f.mantissa * Nat.pow 2 (f.power - 1074) : ℕ) :=
      Nat.one_le_cast.mpr (Nat.cast_pos.mp hpos)
    have hplace : (10 : ℚ) ^ (-28 : ℤ) ≤ 1 := by norm_num
    exact absurd (h.trans_le hplace) hone.not_gt
  beyond f h := by
    have hpower : ¬ f.power < 1074 := fun hlt =>
      absurd (h.trans (Binary64.abs_value_lt_of_power_lt hlt)) (by norm_num)
    rw [decimal?_eq, if_neg hpower]
    exact ofDoubled?_eq_none (not_lt.mp hpower) h
  sign f d h := by
    rw [decimal?_eq] at h
    split at h <;> exact negative_of_ofParts? h

end Decimal

/-! ### Reading the text -/

namespace Binary64

open Decimal (IsRounded)

variable {f : Binary64} {l : Literal} {s : List Char} {x : ℚ} {d : Decimal}

/-- The decimal has the sign of the double, unless it is zero. -/
def SameSign (f : Binary64) (d : Decimal) : Prop :=
  d.mantissa = 0 ∨ d.negative = f.negative

theorem SameSign.value_eq (h : f.SameSign d) :
    d.value = if f.negative then -d.magnitude else d.magnitude := by
  rw [d.value_eq]
  rcases h with hzero | hsign
  · rw [Decimal.magnitude_eq_zero_iff.mpr hzero, neg_zero, ite_self, ite_self]
  · rw [hsign]

theorem SameSign.zero_le_mul (h : f.SameSign d) : 0 ≤ f.value * d.value := by
  have hd := d.magnitude_nonneg
  have hf : (0 : ℚ) ≤ f.magnitude / one := by positivity
  rw [h.value_eq, value]
  cases f.negative with
  | true =>
    rw [if_pos rfl, if_pos rfl, neg_div, neg_mul_neg]
    exact mul_nonneg hf hd
  | false => exact mul_nonneg hf hd

/-- What is read from a text is next to its number, and has the sign of the text unless it is
zero. -/
theorem Writes.isRounded (h : Writes l s x)
    (hd : Decimal.read? ((if f.negative then ['-'] else []) ++ s) = some d) :
    f.SameSign d ∧ IsRounded x d.magnitude := by
  have hm : l.coefficient < Decimal.bound := h.coefficient_lt.trans (by decide)
  rw [h.spelled.read?_eq hm h.places_le f.negative] at hd
  obtain ⟨hsign, hrounded⟩ := Decimal.shift?_eq_some hd
  have hvalue : ((l.toDecimal f.negative hm h.places_le).dropZeroSign).magnitude *
      10 ^ (l.exponent.getD 0) = l.value := by
    rw [Literal.value, sub_eq_neg_add, zpow_add₀ (by norm_num), ← mul_assoc]
    rfl
  rw [hvalue, h.value] at hrounded
  refine ⟨?_, hrounded⟩
  rcases Nat.eq_zero_or_pos l.coefficient with hzero | hpos
  · have hx : x = 0 := by rw [← h.value, Literal.value, hzero, Nat.cast_zero, zero_mul]
    refine .inl (Decimal.magnitude_eq_zero_iff.mp ?_)
    rw [hrounded.exact ⟨0, by rw [hx, zero_mul, Int.cast_zero]⟩, hx]
  · have hne : (l.coefficient != 0) = true := bne_iff_ne.mpr hpos.ne'
    refine .inr (hsign.trans ?_)
    show (f.negative && l.coefficient != 0) = f.negative
    rw [hne, Bool.and_true]

theorem SameSign.isRounded (h : f.SameSign d) (hx : IsRounded x d.magnitude) :
    IsRounded (if f.negative then -x else x) d.value := by
  rw [h.value_eq]
  split
  · exact hx.neg
  · exact hx

/-- The text of a double in the range of the decimals can be read. -/
theorem not_inDecimalRange_of_read?_eq_none (h : Decimal.read? f.text = none) :
    ¬ f.InDecimalRange := by
  intro hf
  obtain ⟨l, hl⟩ := f.exists_writes
  obtain ⟨d, hd⟩ := hl.exists_read? hf.textValue f.negative
  cases h.symm.trans (hd _ hl.spelled)

/-! ### The conversion -/

variable [c : BinaryConversion]

/-- What a double with the shortest text of the number `x` is brought to. The double `2 ^ 96` is
beyond the decimals by one unit only: it is like the larger ones if the conversion by binary digits
has nothing for it, as these need more than 96 bits. -/
structure Converted (f : Binary64) (x : ℚ) (d : Decimal) : Prop where
  large : 2 ^ 96 ≤ |f.value| → (|f.value| = 2 ^ 96 → BinaryConversion.decimal? f = none) →
    d = if f.value < 0 then .min else .max
  border : |f.value| = 2 ^ 96 → ∀ e, BinaryConversion.decimal? f = some e → d = e
  tiny : 0 < |f.value| → |f.value| < 10 ^ (-28 : ℤ) → |d.value| = 0 ∨ |d.value| = 10 ^ (-28 : ℤ)
  exact : f.value = 0 ∨ 10 ^ (-28 : ℤ) ≤ |f.value| ∧ |f.value| < 2 ^ 96 →
    (∃ k : ℤ, x * 10 ^ 28 = k) → d.value = x
  near : 10 ^ (-28 : ℤ) ≤ |f.value| → |f.value| < 2 ^ 96 → |d.value - x| ≤ 10 ^ (-28 : ℤ) / 2
  sign : 0 ≤ f.value * d.value

/-- Beyond `2 ^ 96` a double becomes the largest or the least decimal. -/
theorem Converted.eq_of_lt (h : f.Converted x d) (hlt : 2 ^ 96 < |f.value|) :
    d = if f.negative then .min else .max := by
  have hne : f.value ≠ 0 := abs_pos.mp (lt_trans (by norm_num) hlt)
  rw [h.large hlt.le fun heq => absurd heq hlt.ne', if_congr (value_neg_iff hne) rfl rfl]

/-- A decimal that is read from the text. -/
theorem converted_of_isRounded (hsign : f.SameSign d) (h : IsRounded f.textValue d.magnitude) :
    f.Converted (if f.negative then -f.textValue else f.textValue) d := by
  have hlarge : ¬ 2 ^ 96 ≤ |f.value| := by
    intro hle
    have htext := two_pow_le_textValue hle
    have hmax := d.magnitude_lt
    have hnear := (abs_le.mp h.near).1
    norm_num at htext hmax hnear
    linarith
  have hvalue := hsign.isRounded h
  refine ⟨fun hle _ => absurd hle hlarge, fun heq => absurd heq.ge hlarge, fun _ htiny => ?_,
    fun _ => hvalue.exact, fun _ _ => hvalue.near, hsign.zero_le_mul⟩
  rw [d.abs_value]
  refine h.magnitude_cases (f.textValue_le.trans_lt ?_)
  exact mul_lt_mul_of_pos_left htiny (by norm_num)

theorem converted_of_tiny (h : |f.value| < 10 ^ (-28 : ℤ)) (hne : f.value ≠ 0) (x : ℚ) :
    f.Converted x ((Decimal.ofHalved? f).getD .zero) := by
  obtain ⟨hsign, hcases⟩ := Decimal.ofHalved?_spec (f.abs_value ▸ h)
  have hlarge : ¬ 2 ^ 96 ≤ |f.value| := fun hle => absurd (hle.trans_lt h) (by norm_num)
  refine ⟨fun hle _ => absurd hle hlarge, fun heq => absurd heq.ge hlarge,
    fun _ _ => by rwa [Decimal.abs_value], ?_, fun hle _ => absurd hle (not_le.mpr h),
    SameSign.zero_le_mul hsign⟩
  · rintro (hzero | ⟨hle, -⟩)
    · exact absurd hzero hne
    · exact absurd hle (not_le.mpr h)

/-- Of a large double only `large`, `border` and `sign` say anything. -/
theorem Converted.of_large (h : 2 ^ 96 ≤ |f.value|)
    (hlarge : (|f.value| = 2 ^ 96 → c.decimal? f = none) → d = if f.value < 0 then .min else .max)
    (hborder : ∀ e, c.decimal? f = some e → d = e) (hsign : f.SameSign d) (x : ℚ) :
    f.Converted x d := by
  have hplace : (10 : ℚ) ^ (-28 : ℤ) < 2 ^ 96 := by norm_num
  refine ⟨fun _ => hlarge, fun _ => hborder, fun _ hlt => absurd (h.trans_lt hlt) hplace.not_gt, ?_,
    fun _ hlt => absurd h (not_le.mpr hlt), hsign.zero_le_mul⟩
  rintro (hzero | ⟨-, hlt⟩)
  · rw [hzero, abs_zero] at h
    exact absurd h (by norm_num)
  · exact absurd h (not_le.mpr hlt)

theorem converted_of_large (h : 2 ^ 96 ≤ |f.value|) (hd : c.decimal? f = none) (x : ℚ) :
    f.Converted x (if f.negative then .min else .max) := by
  have hpos : 0 < |f.value| := lt_of_lt_of_le (by norm_num) h
  refine .of_large h (fun _ => ?_) (fun e he => ?_) (.inr ?_) x
  · rw [if_congr (value_neg_iff (abs_pos.mp hpos)) rfl rfl]
  · cases hd.symm.trans he
  · cases f.negative <;> rfl

/-- Only `2 ^ 96` can have a decimal by its binary digits. -/
theorem converted_of_border (hc : c.Faithful) (h : 2 ^ 96 ≤ |f.value|)
    (hd : c.decimal? f = some d) (x : ℚ) : f.Converted x d := by
  have hvalue : |f.value| = 2 ^ 96 := by
    by_contra hne
    cases hd.symm.trans (hc.beyond f (lt_of_le_of_ne h (Ne.symm hne)))
  refine .of_large h (fun hnone => ?_) (fun e he => ?_) (.inr (hc.sign f d hd)) x
  · cases hd.symm.trans (hnone hvalue)
  · exact Option.some.inj (hd.symm.trans he)

/-- A decimal that is not read from the text. -/
theorem converted_of_not_inDecimalRange (hc : c.Faithful) (hf : ¬ f.InDecimalRange) (x : ℚ) :
    f.Converted x (match c.decimal? f with
      | some d => d
      | none => if f.magnitude < one then .zero else if f.negative then .min else .max) := by
  have hne : f.value ≠ 0 := fun hzero => hf (.inl (value_eq_zero_iff.mp hzero))
  have hone : f.magnitude < one ↔ |f.value| < 1 := by
    rw [abs_value, div_lt_one cast_one_pos, Nat.cast_lt]
  have hplace : (10 : ℚ) ^ (-28 : ℤ) ≤ 1 := zpow_le_one_of_nonpos₀ (by norm_num) (by norm_num)
  rcases lt_or_ge |f.value| (10 ^ (-28 : ℤ)) with htiny | hlo
  · have hhalved := converted_of_tiny htiny hne x
    rw [hc.tiny f (abs_pos.mpr hne) htiny]
    cases hd : Decimal.ofHalved? f with
    | some d => rwa [hd] at hhalved
    | none =>
      rw [if_pos (hone.mpr (htiny.trans_le hplace))]
      rwa [hd] at hhalved
  · have hlarge : 2 ^ 96 ≤ |f.value| := by
      by_contra hhi
      exact hf (inDecimalRange_of_abs_value hlo (not_le.mp hhi))
    cases hd : c.decimal? f with
    | some d => exact converted_of_border hc hlarge hd x
    | none =>
      rw [if_neg (mt hone.mp (not_lt.mpr (le_trans (by norm_num) hlarge)))]
      exact converted_of_large hlarge hd x

/-- What a double becomes, and the number of its text. -/
theorem exists_converted (hc : c.Faithful) (f : Binary64) :
    ∃ x, (∀ y, Json.Denotes f.text y ↔ y = x) ∧ f.IsNearest x ∧
      f.Converted x (Decimal.ofBinary f) := by
  obtain ⟨l, hl⟩ := f.exists_writes
  refine ⟨if f.negative then -f.textValue else f.textValue, fun y => ?_, f.isNearest_textValue, ?_⟩
  · have hdenotes : Json.Denotes f.text (if f.negative then -f.textValue else f.textValue) :=
      ⟨f.negative, l, f.magnitudeText, hl.spelled, rfl, by rw [hl.value]⟩
    constructor
    · exact fun hy => hy.unique hdenotes
    · rintro rfl
      exact hdenotes
  · rw [Decimal.ofBinary]
    cases hread : Decimal.read? f.text with
    | some d =>
      obtain ⟨hsign, hrounded⟩ := hl.isRounded hread
      exact converted_of_isRounded hsign hrounded
    | none =>
      exact converted_of_not_inDecimalRange hc (not_inDecimalRange_of_read?_eq_none hread) _

end Binary64

end ConditionalTemplate
