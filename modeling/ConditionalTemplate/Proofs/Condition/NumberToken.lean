import ConditionalTemplate.Proofs.Condition.Display
import ConditionalTemplate.Proofs.Json.NumberValue
import ConditionalTemplate.Proofs.Text.Class
import ConditionalTemplate.Proofs.Value.Number

/-!
# Numbers in records and in conditions

A number comes from two places: from the JSON of a record, as an integer of 64 bits or a double, and
from a condition, as an integer of 32 bits, a decimal, or a text in quotes. A number of JSON and the
token that writes it are equal (`evaluate_numberToken`). On both sides there is one rational number
that the token stands for (`Reads`), and so the kinds do not matter.

The doubles are members of a record here and are not read from its text: the reader need not take
the nearest double.
-/

namespace ConditionalTemplate

/-! ### Texts of numbers -/

/-- The text stands for the number `x`: it is read as a decimal of this value, and as no integer of
another one. -/
structure Reads (w : List Char) (x : ℚ) : Prop where
  ne_nil : w ≠ []
  chars : ∀ c ∈ w, Json.isNumberChar c = true
  head : ∀ c ∈ w.head?, c.toNat ≤ 57
  decimal : ∃ d, Decimal.read? w = some d ∧ d.value = x
  integer : ∀ z, Integer.read? w = some z → z = x

namespace Reads

variable {w : List Char} {x : ℚ} {v : Value}

theorem visible (h : Reads w x) : ∀ c ∈ w, Text.isBlank c = false := by
  intro c hc
  have hchar := h.chars c hc
  simp only [Json.isNumberChar, Bool.or_eq_true, List.contains_iff_mem, List.mem_cons,
    List.not_mem_nil, or_false] at hchar
  rcases hchar with hdigit | rfl | rfl | rfl | rfl | rfl
  · exact Text.isBlank_eq_false_of_isWordChar (by simp [Text.isWordChar, Char.isAlphanum, hdigit])
  all_goals decide

theorem isWord (h : Reads w x) : Text.IsWord w :=
  ⟨h.ne_nil, h.visible⟩

theorem not_mem {c : Char} (h : Reads w x) (hc : Json.isNumberChar c = false) : c ∉ w := by
  intro hmem
  cases hc.symm.trans (h.chars c hmem)

theorem isQuotable (h : Reads w x) : Literal.IsQuotable w := by
  have hquote : ∀ c ∈ w, c ≠ '\x27' := by
    rintro c hc rfl
    exact h.not_mem (by decide) hc
  exact ⟨h.visible, fun c hc => hquote c (List.mem_of_mem_head? hc),
    fun c hc => hquote c (List.mem_of_mem_getLast? hc)⟩

/-- The number is equal to the literal that is read from the text. -/
theorem satisfies_read (h : Reads w x) (hv : v.number? = some x) (c : Comparison) :
    v.satisfies (Literal.read w) c = c.holds .eq := by
  rw [Literal.read_of_head h.head (h.not_mem (by decide))]
  cases hint : Literal.readInt? w with
  | some m =>
    have hm : (Value.int m).number? = some x :=
      congrArg some (h.integer _ (Literal.readInt?_eq_some_iff.mp hint).1)
    exact Value.satisfies_of_number?_eq hv hm c
  | none =>
    obtain ⟨d, hread, hvalue⟩ := h.decimal
    have hd : (Value.decimal d).number? = some x := congrArg some hvalue
    rw [hread]
    exact Value.satisfies_of_number?_eq hv hd c

/-- The number is equal to the text, provided that the text is an integer where the number is. -/
theorem satisfies_text (h : Reads w x) (hv : v.number? = some x)
    (hint : ∀ n, v = .int n → (Integer.read? w).isSome = true) (c : Comparison) :
    v.satisfies (.text (String.ofList w)) c = c.holds .eq := by
  have htrim : Text.trim (String.ofList w).toList = w := by
    rw [String.toList_ofList]
    exact Text.trim_eq_self (fun c hc => h.visible c (List.mem_of_mem_head? hc))
      fun c hc => h.visible c (List.mem_of_mem_getLast? hc)
  cases v with
  | int n =>
    obtain ⟨z, hz⟩ := Option.isSome_iff_exists.mp (hint n rfl)
    have hzx := h.integer z hz
    obtain rfl : n.toInt = z := by
      rw [← Option.some.inj hv] at hzx
      exact_mod_cast hzx.symm
    have hcoerce : (Value.text (String.ofList w)).coerceLike (.int n) = some (.int n) := by
      rw [Value.coerceLike, Value.toInt?, htrim, hz, Option.bind_some, Integer.ofInt64?_toInt]
      rfl
    exact Value.satisfies_of_coerceLike hcoerce (by simp [Value.order?]) c
  | decimal d =>
    obtain ⟨e, he, hvalue⟩ := h.decimal
    have hcoerce : (Value.text (String.ofList w)).coerceLike (.decimal d) = some (.decimal e) := by
      rw [Value.coerceLike, Value.toDecimal?, htrim, he]
      rfl
    exact Value.satisfies_of_coerceLike hcoerce
      (Value.order?_decimal ((Option.some.inj hv).trans hvalue.symm)) c
  | null | bool | text | sequence => cases hv

end Reads

/-! ### Tokens -/

open Json (IsWhole Literal.Spelled)

/-- The numbers of JSON that conditions read alike, and how they are written: integers from `-2 ^ 63`
below `2 ^ 64`, minus zero, which is a double, and the doubles in the range of the decimals by their
own text, the plus sign of an exponent there or not. -/
inductive IsNumberToken : List Char → Json.Number → Prop where
  | natural {s : List Char} (h : IsWhole s) (hlt : Nat.ofDigitChars 10 s 0 < 2 ^ 64) :
    IsNumberToken s (.natural (UInt64.ofNat (Nat.ofDigitChars 10 s 0)))
  | negative {s : List Char} (h : IsWhole s) (hpos : 0 < Nat.ofDigitChars 10 s 0)
    (hle : Nat.ofDigitChars 10 s 0 ≤ 2 ^ 63) :
    IsNumberToken ('-' :: s) (.negative (Int64.ofInt (-Nat.ofDigitChars 10 s 0)))
  | minusZero : IsNumberToken ['-', '0'] (.double (Binary64.zero true))
  | double {f : Binary64} (h : f.InDecimalRange) : IsNumberToken f.text (.double f)
  | doubleWithoutPlus {f : Binary64} (h : f.InDecimalRange) :
    IsNumberToken (f.text.filter (· != '+')) (.double f)

variable {w s : List Char} {l : Json.Literal} {negative : Bool} {x : ℚ}

/-- Where a number is read alone, it is read as a member as well. -/
theorem Json.Literal.Spelled.read_memberText {n : Json.Number} (h : l.Spelled s)
    (hread : Json.read ((if negative then ['-'] else []) ++ s) = .ok (.number n))
    (key : List Char) : Json.read (Json.memberText key ((if negative then ['-'] else []) ++ s)) =
      .ok (.object [(String.ofList key, .number n)]) := by
  rw [Json.read_signed h] at hread
  cases hnumber : l.number? negative with
  | none =>
    rw [hnumber] at hread
    cases hread
  | some m =>
    rw [hnumber] at hread
    cases hread
    exact Json.read_memberText key h hnumber

theorem Json.Literal.Spelled.reads (h : l.Spelled s)
    (hdecimal : ∃ d, Decimal.read? ((if negative then ['-'] else []) ++ s) = some d ∧ d.value = x)
    (hinteger : ∀ z, Integer.read? ((if negative then ['-'] else []) ++ s) = some z → z = x) :
    Reads ((if negative then ['-'] else []) ++ s) x := by
  obtain ⟨c, t, rfl, hc⟩ := h.exists_cons
  refine ⟨by simp, ?_, ?_, hdecimal, hinteger⟩
  · exact List.forall_mem_append.mpr ⟨by cases negative <;> decide, h.isNumberChar⟩
  · cases negative with
    | true =>
      rintro _ ⟨⟩
      decide
    | false =>
      rintro _ ⟨⟩
      exact (Char.isDigit_iff_toNat.mp hc).2

/-- An integer is written with digits and a sign. -/
def IsIntegerToken (w : List Char) : Prop :=
  ∀ c ∈ w, c = '-' ∨ c.isDigit = true

/-- What is needed of a number to be equal to its token. -/
structure Agrees [BinaryConversion] (w : List Char) (n : Json.Number) (x : ℚ) : Prop where
  number : n.toValue.number? = some x
  reads : Reads w x
  integer : ∀ i, n.toValue = .int i → (Integer.read? w).isSome = true
  json : IsIntegerToken w → Json.read w = .ok (.number n)
  member : Json.read w = .ok (.number n) → ∀ key,
    Json.read (Json.memberText key w) = .ok (.object [(String.ofList key, .number n)])

section

variable [BinaryConversion]

/-- A natural number is an integer or a decimal. -/
theorem Json.Number.number?_natural {n : ℕ} (hn : n < 2 ^ 64) :
    (Json.Number.natural (UInt64.ofNat n)).toValue.number? = some (n : ℚ) := by
  rcases lt_or_ge n (2 ^ 63) with hlt | hle
  · obtain ⟨i, hi, hvalue⟩ := toValue_natural_of_lt hlt
    rw [hi, Value.number?, hvalue, Int.cast_natCast]
  · obtain ⟨d, hd, hvalue⟩ := toValue_natural_of_le hle hn
    rw [hd, Value.number?, hvalue]

theorem Json.Number.number?_negative {n : ℕ} (hn : n ≤ 2 ^ 63) :
    (Json.Number.negative (Int64.ofInt (-n))).toValue.number? = some (-n : ℚ) := by
  have hexact : (Int64.ofInt (-n)).toInt = -n := Int64.toInt_ofInt_of_le (by omega) (by omega)
  rw [Json.Number.toValue, Value.number?, hexact, Int.cast_neg, Int.cast_natCast]

/-- Minus zero is a double, and its decimal has no sign. -/
theorem Json.Number.number?_minusZero :
    (Json.Number.double (Binary64.zero true)).toValue.number? = some (0 : ℚ) := by
  have hread : Decimal.read? (Binary64.zero true).text =
      some ⟨false, 0, 1, by decide, by decide⟩ := by
    decide
  rw [Json.Number.toValue, Decimal.ofBinary, hread]
  exact congrArg some (by simp [Decimal.value, Decimal.signed])

/-- The token of an integer is read as the integer everywhere. -/
theorem Agrees.of_integer {n : Json.Number} (h : IsWhole s)
    (hlt : Nat.ofDigitChars 10 s 0 < 2 ^ 64)
    (hnumber : Json.Literal.number? ⟨s, none, none⟩ negative = some n)
    (hvalue : n.toValue.number? =
      some (if negative then -(Nat.ofDigitChars 10 s 0 : ℚ) else Nat.ofDigitChars 10 s 0)) :
    ∃ x, Agrees ((if negative then ['-'] else []) ++ s) n x := by
  have hspelled := h.spelled
  have hinteger : Integer.read? ((if negative then ['-'] else []) ++ s) =
      some (if negative then -(Nat.ofDigitChars 10 s 0 : ℤ) else Nat.ofDigitChars 10 s 0) := by
    cases negative with
    | true => exact Integer.read?_eq_some_iff.mpr (.minus h.ne_nil h.digits)
    | false => exact Integer.read?_eq_some_iff.mpr (.plain h.ne_nil h.digits)
  have hdecimal := Decimal.Numeral.read?_eq
    (d := ⟨negative, _, 0, hlt.trans (by decide), by decide⟩) (.whole h.ne_nil h.digits)
  refine ⟨_, hvalue, hspelled.reads ⟨_, hdecimal, ?_⟩ fun z hz => ?_, fun _ _ => ?_, fun _ => ?_,
    hspelled.read_memberText⟩
  · rw [Decimal.value_dropZeroSign, Decimal.value, Decimal.signed]
    cases negative <;> simp
  · obtain rfl := Option.some.inj (hinteger.symm.trans hz)
    cases negative <;> simp
  · rw [hinteger]
    rfl
  · rw [Json.read_signed hspelled, hnumber]
    rfl

/-- The text of a double has a point or an exponent, and is a decimal of the value that the double
has. -/
theorem Agrees.of_double {f : Binary64} (hf : f.InDecimalRange) :
    ∃ x, Agrees f.text (.double f) x ∧ Agrees (f.text.filter (· != '+')) (.double f) x := by
  obtain ⟨l, hl⟩ := f.exists_writes
  obtain ⟨d, hd⟩ := hl.exists_read? hf.textValue f.negative
  have hvalue : (Json.Number.double f).toValue = .decimal d := by
    rw [Json.Number.toValue, Decimal.ofBinary, Binary64.text, hd _ hl.spelled]
  have hagrees {t : List Char} (ht : l.Spelled t) :
      Agrees ((if f.negative then ['-'] else []) ++ t) (.double f) d.value := by
    obtain ⟨c, hc, hdigit, hsign⟩ := ht.exists_mark hl.marked
    refine ⟨by rw [hvalue]; rfl, ht.reads ⟨d, hd t ht, rfl⟩ fun z hz => ?_, fun i hi => ?_,
      fun hinteger => ?_, ht.read_memberText⟩
    · rw [Integer.read?_eq_none_of_mem hdigit hsign (List.mem_append_right _ hc)] at hz
      cases hz
    · cases hvalue.symm.trans hi
    · rcases hinteger c (List.mem_append_right _ hc) with rfl | hc'
      · exact absurd (by decide) hsign
      · cases hdigit.symm.trans hc'
  have hsign : ((if f.negative then ['-'] else []) : List Char).filter (· != '+') =
      if f.negative then ['-'] else [] := by
    cases f.negative <;> rfl
  refine ⟨d.value, hagrees hl.spelled, ?_⟩
  rw [Binary64.text, List.filter_append, hsign]
  exact hagrees hl.spelled.withoutPlus

theorem IsNumberToken.exists_agrees {n : Json.Number} (h : IsNumberToken w n) :
    ∃ x, Agrees w n x := by
  cases h with
  | natural h hlt =>
    have hcoefficient := Json.Literal.coefficient_of_isInteger (l := ⟨w, none, none⟩) rfl
    have hnumber := Json.Literal.number?_natural (l := ⟨w, none, none⟩) rfl (hcoefficient ▸ hlt)
    rw [hcoefficient] at hnumber
    exact Agrees.of_integer h hlt hnumber (Json.Number.number?_natural hlt)
  | @negative s h hpos hle =>
    have hcoefficient := Json.Literal.coefficient_of_isInteger (l := ⟨s, none, none⟩) rfl
    have hnumber := Json.Literal.number?_negative (l := ⟨s, none, none⟩) rfl (hcoefficient ▸ hpos)
      (hcoefficient ▸ hle)
    rw [hcoefficient] at hnumber
    exact Agrees.of_integer h (by omega) hnumber (Json.Number.number?_negative hle)
  | minusZero =>
    have hnumber : Json.Literal.number? ⟨['0'], none, none⟩ true =
        some (.double (Binary64.zero true)) := by
      decide +kernel
    refine Agrees.of_integer Binary64.isWhole_zero (by decide) hnumber ?_
    have hzero : Nat.ofDigitChars 10 ['0'] 0 = 0 := rfl
    rw [Json.Number.number?_minusZero, hzero, if_pos rfl, Nat.cast_zero, neg_zero]
  | double h =>
    obtain ⟨x, hx, -⟩ := Agrees.of_double h
    exact ⟨x, hx⟩
  | doubleWithoutPlus h =>
    obtain ⟨x, -, hx⟩ := Agrees.of_double h
    exact ⟨x, hx⟩

end

namespace Condition

variable {key : List Char} {n : Json.Number}

/-- A number in a JSON record and its token in a condition are equal, without quotes and between
them. The token of an integer is read from JSON as the number, and where the token is read so, the
record can be read from its text. -/
theorem evaluate_numberToken [BinaryConversion] (hkey : Text.IsWord key) (hw : IsNumberToken w n) :
    (IsIntegerToken w → Json.read w = .ok (.number n)) ∧
      (Json.read w = .ok (.number n) →
        Json.read (Json.memberText key w) = .ok (.object [(String.ofList key, .number n)])) ∧
      ∃ r, (Data.json (.object [(String.ofList key, .number n)])).toRecord = .ok r ∧
        ∀ c, evaluate (comparisonText key c w) r =
            .ok (decide (c ∈ [.equal, .atLeast, .atMost])) ∧
          evaluate (comparisonText key c (Literal.quoted w)) r =
            .ok (decide (c ∈ [.equal, .atLeast, .atMost])) := by
  obtain ⟨x, h⟩ := hw.exists_agrees
  obtain ⟨hrecord, hfield⟩ := Json.get?_memberRecord (String.ofList key) n
  refine ⟨h.json, fun hread => h.member hread key, _, hrecord, fun c => ?_⟩
  have hholds : c.holds .eq = decide (c ∈ [.equal, .atLeast, .atMost]) := by cases c <;> rfl
  rw [evaluate_comparisonText hkey h.reads.isWord hfield,
    evaluate_quoted hkey h.reads.isQuotable hfield, h.reads.satisfies_read h.number,
    h.reads.satisfies_text h.number h.integer, hholds]
  exact ⟨rfl, rfl⟩

theorem isNumberToken_lastPlace :
    IsNumberToken "1e-28".toList (.double Binary64.lastPlace) := by
  have htext : Binary64.lastPlace.text = "1e-28".toList := by decide +kernel
  rw [← htext]
  exact .double (.inr ⟨le_rfl, by decide +kernel⟩)

theorem evaluate_numberToken_lastPlace :
    Text.IsWord "k".toList ∧ IsNumberToken "1e-28".toList (.double Binary64.lastPlace) ∧
      ∃ r, (Data.json (.object [("k", .number (.double Binary64.lastPlace))])).toRecord = .ok r ∧
        evaluate "k == 1e-28".toList r = .ok true ∧
        evaluate "k < '1e-28'".toList r = .ok false := by
  have hkey : Text.IsWord "k".toList := ⟨by decide, by decide⟩
  obtain ⟨-, -, r, hr, h⟩ := evaluate_numberToken hkey isNumberToken_lastPlace
  exact ⟨hkey, isNumberToken_lastPlace, r, hr, (h .equal).1, (h .less).2⟩

end Condition

end ConditionalTemplate
