import ConditionalTemplate.Json.NumberLiteral
import ConditionalTemplate.Proofs.Integer.Numeral
import ConditionalTemplate.Proofs.Text.Maximal
import Mathlib.Data.List.TakeDrop

/-!
# Writing JSON numbers

`Literal.Spelled l s`: the text `s` writes the literal `l` by the grammar of JSON numbers, the sign
in front apart. The reader takes the whole of it, whatever follows that does not continue a number
(`Literal.Spelled.readLiteral_eq`). The plus sign of an exponent may be there or not
(`Literal.Spelled.withoutPlus`).
-/

namespace ConditionalTemplate.Json

/-- A zero alone, or digits that do not begin with one. -/
structure IsWhole (s : List Char) : Prop where
  ne_nil : s ≠ []
  digits : ∀ c ∈ s, c.isDigit = true
  zero : s.head? = some '0' → s = ['0']

/-- A point and at least one digit, or nothing. -/
inductive FractionText : Option (List Char) → List Char → Prop where
  | absent : FractionText none []
  | present {s : List Char} (hne : s ≠ []) (h : ∀ c ∈ s, c.isDigit = true) :
    FractionText (some s) ('.' :: s)

/-- The mark of an exponent and an integer, with a sign or without, or nothing. -/
inductive ExponentText : Option Int → List Char → Prop where
  | absent : ExponentText none []
  | present {c : Char} {s : List Char} {z : Int} (hc : c = 'e' ∨ c = 'E')
    (h : Integer.Written s z) : ExponentText (some z) (c :: s)

inductive Literal.Spelled : Literal → List Char → Prop where
  | mk {integer : List Char} {fraction : Option (List Char)} {exponent : Option Int}
    {s t : List Char} (hinteger : IsWhole integer) (hfraction : FractionText fraction s)
    (hexponent : ExponentText exponent t) :
    Spelled ⟨integer, fraction, exponent⟩ (integer ++ s ++ t)

theorem IsWhole.spelled {s : List Char} (h : IsWhole s) : Literal.Spelled ⟨s, none, none⟩ s := by
  have hs := Literal.Spelled.mk h .absent .absent
  rwa [List.append_nil, List.append_nil] at hs

/-- The digits in front of the point and behind it as one number. -/
def Literal.coefficient (l : Literal) : Nat :=
  Nat.ofDigitChars 10 (l.integer ++ l.fraction.getD []) 0

/-- How many digits stand behind the point. -/
def Literal.places (l : Literal) : Nat :=
  (l.fraction.getD []).length

/-- The characters that continue a number. -/
def continuesNumber (c : Char) : Bool :=
  c.isDigit || c == '.' || c == 'e' || c == 'E'

variable {early : Fault} {s t rest : List Char} {fraction : Option (List Char)}
  {exponent : Option Int} {l : Literal} {z : Int}

/-! ### The parts -/

theorem digits_append (hs : ∀ c ∈ s, c.isDigit = true)
    (hrest : ∀ c ∈ rest.head?, c.isDigit = false) : digits (s ++ rest) = (s, rest) := by
  obtain ⟨htake, hdrop⟩ := Text.takeWhile_append_of_head hs hrest
  rw [digits, List.span_eq_takeWhile_dropWhile, htake, hdrop]

theorem readDigits_append (hne : s ≠ []) (hs : ∀ c ∈ s, c.isDigit = true)
    (hrest : ∀ c ∈ rest.head?, c.isDigit = false) :
    readDigits early (s ++ rest) = .ok (s, rest) := by
  rw [readDigits, digits_append hs hrest]
  split
  · next heq => cases heq; exact absurd rfl hne
  · next heq => cases heq; exact absurd rfl hne
  · rfl

theorem IsWhole.readInteger_eq (h : IsWhole s) (hrest : ∀ c ∈ rest.head?, c.isDigit = false) :
    readInteger early (s ++ rest) = .ok (s, rest) := by
  cases s with
  | nil => exact absurd rfl h.ne_nil
  | cons c s =>
    rw [List.cons_append, readInteger.eq_def]
    dsimp only
    split
    · next hc =>
      obtain rfl : s = [] := List.tail_eq_of_cons_eq (h.zero (congrArg some hc))
      subst hc
      cases rest with
      | nil => rfl
      | cons d rest => simp [hrest d rfl]
    · rw [if_pos (h.digits c List.mem_cons_self), ← List.cons_append, digits_append h.digits hrest]

theorem FractionText.readFraction_eq (h : FractionText fraction s)
    (hrest : ∀ c ∈ rest.head?, c.isDigit = false ∧ c ≠ '.') :
    readFraction early (s ++ rest) = .ok (fraction, rest) := by
  cases h with
  | absent =>
    rw [List.nil_append, readFraction]
    rintro s rfl
    exact (hrest '.' rfl).2 rfl
  | present hne h =>
    rw [List.cons_append, readFraction, readDigits_append hne h fun c hc => (hrest c hc).1]
    rfl

theorem exponentSign_of_digits (hs : ∀ c ∈ s, c.isDigit = true) (hne : s ≠ []) :
    exponentSign (s ++ rest) = (false, s ++ rest) := by
  cases s with
  | nil => exact absurd rfl hne
  | cons c s =>
    have hc := hs c List.mem_cons_self
    rw [List.cons_append, exponentSign]
    · rintro _ ⟨⟩
      cases hc
    · rintro _ ⟨⟩
      cases hc

theorem ExponentText.readExponent_eq (h : ExponentText exponent s)
    (hrest : ∀ c ∈ rest.head?, c.isDigit = false ∧ c ≠ 'e' ∧ c ≠ 'E') :
    readExponent early (s ++ rest) = .ok (exponent, rest) := by
  have hdigit : ∀ c ∈ rest.head?, c.isDigit = false := fun c hc => (hrest c hc).1
  cases h with
  | absent =>
    cases rest with
    | nil => rfl
    | cons c rest =>
      obtain ⟨-, he, hE⟩ := hrest c rfl
      rw [List.nil_append, readExponent, if_neg (not_or.mpr ⟨he, hE⟩)]
  | present hc h =>
    rw [List.cons_append, readExponent, if_pos hc]
    cases h with
    | plain hne h =>
      rw [exponentSign_of_digits h hne, readDigits_append hne h hdigit]
      rfl
    | plus hne h =>
      rw [List.cons_append, exponentSign, readDigits_append hne h hdigit]
      rfl
    | minus hne h =>
      rw [List.cons_append, exponentSign, readDigits_append hne h hdigit]
      rfl

/-! ### The whole -/

theorem ExponentText.head_of_append (h : ExponentText exponent t)
    (hrest : ∀ c ∈ rest.head?, continuesNumber c = false) :
    ∀ c ∈ (t ++ rest).head?, c.isDigit = false ∧ c ≠ '.' := by
  cases h with
  | absent =>
    intro c hc
    have := hrest c hc
    simp_all [continuesNumber]
  | present hc _ =>
    rintro _ ⟨⟩
    rcases hc with rfl | rfl <;> decide

theorem FractionText.head_of_append (h : FractionText fraction s)
    (hrest : ∀ c ∈ rest.head?, c.isDigit = false ∧ c ≠ '.') :
    ∀ c ∈ (s ++ rest).head?, c.isDigit = false := by
  cases h with
  | absent => exact fun c hc => (hrest c hc).1
  | present =>
    rintro _ ⟨⟩
    rfl

namespace Literal.Spelled

/-- A literal is read to its end. -/
theorem readLiteral_eq (h : l.Spelled s) (hrest : ∀ c ∈ rest.head?, continuesNumber c = false) :
    readLiteral early (s ++ rest) = .ok (l, rest) := by
  cases h with
  | mk hinteger hfraction hexponent =>
    have hafter := hexponent.head_of_append hrest
    have hend : ∀ c ∈ rest.head?, c.isDigit = false ∧ c ≠ 'e' ∧ c ≠ 'E' := by
      intro c hc
      have := hrest c hc
      simp_all [continuesNumber]
    simp only [readLiteral, List.append_assoc, bind, Except.bind,
      hinteger.readInteger_eq (hfraction.head_of_append hafter),
      hfraction.readFraction_eq hafter, hexponent.readExponent_eq hend]

end Literal.Spelled

/-! ### The characters of numbers -/

variable {c : Char}

/-- The characters of numbers. -/
def isNumberChar (c : Char) : Bool :=
  c.isDigit || ['.', '-', '+', 'e', 'E'].contains c

theorem isNumberChar_of_isDigit (h : c.isDigit = true) : isNumberChar c = true := by
  rw [isNumberChar, h, Bool.true_or]

theorem isNumberChar_of_written (h : Integer.Written s z) :
    ∀ c ∈ s, isNumberChar c = true := by
  cases h with
  | plain _ h => exact fun c hc => isNumberChar_of_isDigit (h c hc)
  | plus _ h | minus _ h =>
    exact List.forall_mem_cons.mpr ⟨by decide, fun c hc => isNumberChar_of_isDigit (h c hc)⟩

theorem FractionText.mem (h : FractionText fraction s) {c : Char} (hc : c ∈ s) :
    c = '.' ∨ c.isDigit = true := by
  cases h with
  | absent => cases hc
  | present _ h => exact (List.mem_cons.mp hc).imp_right (h c)

theorem Literal.Spelled.isNumberChar (h : l.Spelled s) : ∀ c ∈ s, isNumberChar c = true := by
  cases h with
  | mk hinteger hfraction hexponent =>
    simp only [List.forall_mem_append]
    refine ⟨⟨fun c hc => isNumberChar_of_isDigit (hinteger.digits c hc), fun c hc => ?_⟩, ?_⟩
    · rcases hfraction.mem hc with rfl | hdigit
      · decide
      · exact isNumberChar_of_isDigit hdigit
    · cases hexponent with
      | absent => exact nofun
      | present hmark hz =>
        refine List.forall_mem_cons.mpr ⟨?_, isNumberChar_of_written hz⟩
        rcases hmark with rfl | rfl <;> decide

/-- A number with a fraction or an exponent is not written as an integer. -/
theorem Literal.Spelled.exists_mark (h : l.Spelled s)
    (hmarked : (l.fraction.isNone && l.exponent.isNone) = false) :
    ∃ c ∈ s, c.isDigit = false ∧ c ∉ ['+', '-'] := by
  cases h with
  | mk hinteger hfraction hexponent =>
    cases hfraction with
    | present => exact ⟨'.', by simp, by decide, by decide⟩
    | absent =>
      cases hexponent with
      | absent => cases hmarked
      | @present c _ _ hmark _ =>
        refine ⟨c, by simp, ?_⟩
        rcases hmark with rfl | rfl <;> decide

/-- The plus sign of an exponent can be left out. -/
theorem Literal.Spelled.withoutPlus (h : l.Spelled s) : l.Spelled (s.filter (· != '+')) := by
  have hdigits {s : List Char} (hs : ∀ c ∈ s, c.isDigit = true) : s.filter (· != '+') = s := by
    refine List.filter_eq_self.mpr fun c hc => ?_
    have hne : c ≠ '+' := by
      rintro rfl
      cases hs _ hc
    simpa using hne
  cases h with
  | mk hinteger hfraction hexponent =>
    rw [List.filter_append, List.filter_append, hdigits hinteger.digits]
    refine .mk hinteger ?_ ?_
    · cases hfraction with
      | absent => exact .absent
      | present hne hs =>
        rw [List.filter_cons_of_pos (by decide), hdigits hs]
        exact .present hne hs
    · cases hexponent with
      | absent => exact .absent
      | @present c _ _ hmark hz =>
        have hc : (c != '+') = true := by rcases hmark with rfl | rfl <;> rfl
        rw [List.filter_cons_of_pos (p := (· != '+')) hc]
        refine .present hmark ?_
        cases hz with
        | plain hne hs =>
          rw [hdigits hs]
          exact .plain hne hs
        | plus hne hs =>
          rw [List.filter_cons_of_neg (by decide), hdigits hs]
          exact .plain hne hs
        | minus hne hs =>
          rw [List.filter_cons_of_pos (by decide), hdigits hs]
          exact .minus hne hs

end ConditionalTemplate.Json
