import ConditionalTemplate.Proofs.Decimal.Text
import ConditionalTemplate.Proofs.Json.Number
import Mathlib.Tactic.Linarith

/-!
# Decimals from JSON numbers

A decimal is read from the text of a JSON number: from the digits with the point, moved by the
exponent if there is one (`Literal.Spelled.read?_eq`). There is such a decimal if the digits have
96 bits and 28 places, the exponent moves the point by no more than 28, and the number has no more
than 96 bits in front of it (`isSome_shift?`).
-/

namespace ConditionalTemplate

namespace Decimal

variable {s t : List Char} {m n next : Nat} {started pointed : Bool} {d : Decimal} {z : Int}

/-! ### Plain notation -/

theorem roundOff_eq_none {c : Char} (hdigit : c.isDigit = false) (hc : c ≠ '_') (h : c ∈ s) :
    roundOff m n next s = none := by
  rw [roundOff, if_neg]
  intro hall
  have := List.all_eq_true.mp hall c h
  simp [hdigit, hc] at this

theorem readDigits_eq_none {c : Char} (hdigit : c.isDigit = false) (hpoint : c ≠ '.')
    (hscore : c ≠ '_') (h : c ∈ s) : readDigits started pointed m n s = none := by
  induction s generalizing started pointed m n with
  | nil => cases h
  | cons a s ih =>
    rw [readDigits]
    rcases List.mem_cons.mp h with rfl | hs
    · simp [hdigit, hpoint, hscore]
    · simp only [ih hs, roundOff_eq_none hdigit hscore hs, ite_self]

/-- The mark of an exponent has no place in plain notation. -/
theorem readPlain?_eq_none_of_mem {c : Char} (hc : c = 'e' ∨ c = 'E') (h : c ∈ s) :
    readPlain? s = none := by
  have hsign : c ∈ (Integer.sign s).2 := by
    rw [Integer.sign.eq_def]
    split
    · next s => exact (List.mem_cons.mp h).resolve_left (by rcases hc with rfl | rfl <;> decide)
    · next s => exact (List.mem_cons.mp h).resolve_left (by rcases hc with rfl | rfl <;> decide)
    · exact h
  have hnone : readDigits false false 0 0 (Integer.sign s).2 = none := by
    rcases hc with rfl | rfl <;> exact readDigits_eq_none rfl (by decide) (by decide) hsign
  rw [readPlain?, hnone]
  rfl

/-! ### Scientific notation -/

/-- Moves the point by an exponent. -/
def shift? (d : Decimal) (z : Int) : Option Decimal :=
  if z < 0 then d.scaleDown? z.natAbs else d.scaleUp? z.natAbs

theorem shift?_zero (d : Decimal) : d.shift? 0 = some d := by
  simp [shift?, scaleUp?, ofParts?, d.mantissa_lt, d.scale_le]

theorem readExponent?_of_digits (hne : s ≠ []) (h : ∀ c ∈ s, c.isDigit = true) :
    readExponent? s = some (Nat.ofDigitChars 10 s 0) := by
  rw [readExponent?.eq_def]
  split
  · cases h '+' List.mem_cons_self
  · exact Integer.readNat?_of_digits hne h

theorem scaleDown?_eq_shift? (d : Decimal) (n : Nat) : d.scaleDown? n = d.shift? (-n) := by
  rcases Nat.eq_zero_or_pos n with rfl | hn
  · simp [shift?_zero, scaleDown?, ofParts?, d.mantissa_lt, d.scale_le]
  · rw [shift?, if_pos (by omega), Int.natAbs_neg, Int.natAbs_natCast]

theorem scaleUp?_eq_shift? (d : Decimal) (n : Nat) : d.scaleUp? n = d.shift? n := by
  rw [shift?, if_neg (by omega), Int.natAbs_natCast]

theorem readScientific?_eq {c : Char} (hbase : ∀ c ∈ s, c ≠ 'e' ∧ c ≠ 'E')
    (hd : readPlain? s = some d) (hc : c = 'e' ∨ c = 'E') (h : Integer.Written t z) :
    readScientific? (s ++ c :: t) = d.shift? z := by
  have hspan : (s ++ c :: t).span (fun c => c != 'e' && c != 'E') = (s, c :: t) := by
    have hmark : ∀ a ∈ (c :: t).head?, (a != 'e' && a != 'E') = false := by
      rintro _ ⟨⟩
      rcases hc with rfl | rfl <;> rfl
    obtain ⟨htake, hdrop⟩ := Text.takeWhile_append_of_head
      (p := fun c => c != 'e' && c != 'E') (fun c hc => by simp [hbase c hc]) hmark
    rw [List.span_eq_takeWhile_dropWhile, htake, hdrop]
  simp only [readScientific?, hspan, hd, Option.bind_eq_bind, Option.bind_some]
  cases h with
  | plain hne h =>
    split
    · cases h '-' List.mem_cons_self
    · rw [readExponent?_of_digits hne h, Option.bind_some, scaleUp?_eq_shift?]
  | @plus s hne h =>
    show (Integer.readNat? s).bind d.scaleUp? = _
    rw [Integer.readNat?_of_digits hne h, Option.bind_some, scaleUp?_eq_shift?]
  | @minus s hne h =>
    show (readExponent? s).bind d.scaleDown? = _
    rw [readExponent?_of_digits hne h, Option.bind_some, scaleDown?_eq_shift?]

theorem halfUp_le {a b : Nat} (hb : 0 < b) : Rounding.halfUp a b ≤ a := by
  have hdiv := Nat.div_add_mod a b
  have hle : a / b ≤ b * (a / b) := Nat.le_mul_of_pos_left _ hb
  rw [Rounding.halfUp]
  split <;> omega

theorem isSome_ofParts? {negative : Bool} (hm : m < bound) (hn : n ≤ 28) :
    (ofParts? negative m n).isSome = true := by
  rw [ofParts?, dif_pos ⟨hm, hn⟩]
  rfl

/-- The point can be moved if no more than 96 bits come to stand in front of it. -/
theorem isSome_shift? (hlo : -28 ≤ z) (hhi : z ≤ 28)
    (hlt : (d.mantissa : ℚ) * 10 ^ (z - d.scale) < bound) : (d.shift? z).isSome = true := by
  have hmantissa := d.mantissa_lt
  have hscale := d.scale_le
  rw [shift?]
  split
  · rw [scaleDown?, if_neg (by omega)]
    split
    · exact isSome_ofParts? hmantissa (by assumption)
    · exact isSome_ofParts? ((halfUp_le (Nat.pow_pos (by decide))).trans_lt hmantissa) (by decide)
  · rw [scaleUp?]
    split
    · exact isSome_ofParts? hmantissa (by omega)
    · next hz hn =>
      rw [if_neg (by omega)]
      refine isSome_ofParts? ?_ (by decide)
      have hexponent : z - d.scale = (z.natAbs - d.scale : ℕ) := by omega
      rw [hexponent, zpow_natCast] at hlt
      rw [Nat.pow_eq]
      exact_mod_cast hlt

end Decimal

/-! ### JSON numbers -/

namespace Json

open Decimal (Numeral)

variable {l : Literal} {s : List Char} {fraction : Option (List Char)}

theorem FractionText.numeral (h : FractionText fraction s) {integer : List Char}
    (hinteger : IsWhole integer) : Numeral (integer ++ s)
      (Nat.ofDigitChars 10 (integer ++ fraction.getD []) 0) (fraction.getD []).length := by
  cases h with
  | absent =>
    rw [Option.getD_none, List.append_nil]
    exact .whole hinteger.ne_nil hinteger.digits
  | present _ h =>
    exact .pointed hinteger.ne_nil (List.forall_mem_append.mpr ⟨hinteger.digits, h⟩)

theorem ne_mark_of_isDigit {c : Char} (h : c.isDigit = true) : c ≠ 'e' ∧ c ≠ 'E' := by
  constructor <;> rintro rfl <;> cases h

/-- The decimal that the digits of a literal write, its exponent apart. -/
def Literal.toDecimal (l : Literal) (negative : Bool) (hm : l.coefficient < Decimal.bound)
    (hn : l.places ≤ 28) : Decimal :=
  ⟨negative, l.coefficient, l.places, hm, hn⟩

/-- A literal is read as the decimal of its digits, with the point moved by the exponent. -/
theorem Literal.Spelled.read?_eq (h : l.Spelled s) (hm : l.coefficient < Decimal.bound)
    (hn : l.places ≤ 28) (negative : Bool) :
    Decimal.read? ((if negative then ['-'] else []) ++ s) =
      (l.toDecimal negative hm hn).dropZeroSign.shift? (l.exponent.getD 0) := by
  cases h with
  | @mk integer fraction exponent s t hinteger hfraction hexponent =>
    generalize hd : Literal.toDecimal ⟨integer, fraction, exponent⟩ negative hm hn = d
    have hnumeral : Numeral (integer ++ s) d.mantissa d.scale := hd ▸ hfraction.numeral hinteger
    have hplain := hnumeral.readPlain?_eq
    obtain rfl : d.negative = negative := hd ▸ rfl
    cases hexponent with
    | absent =>
      rw [List.append_nil, Decimal.read?, hplain, Option.getD_none, Decimal.shift?_zero]
      rfl
    | @present c t z hc ht =>
      have hbase : ∀ a ∈ (if d.negative then ['-'] else []) ++ (integer ++ s),
          a ≠ 'e' ∧ a ≠ 'E' := by
        simp only [List.forall_mem_append]
        refine ⟨by cases d.negative <;> decide, fun a ha => ?_, fun a ha => ?_⟩
        · exact ne_mark_of_isDigit (hinteger.digits a ha)
        · rcases hfraction.mem ha with rfl | hdigit
          · decide
          · exact ne_mark_of_isDigit hdigit
      rw [← List.append_assoc, Decimal.read?, Decimal.readPlain?_eq_none_of_mem hc (by simp),
        Decimal.readScientific?_eq hbase hplain hc ht]
      rfl

end Json

end ConditionalTemplate
