import ConditionalTemplate.Proofs.Text.Occurrence
import ConditionalTemplate.Proofs.Value.Number

/-!
# Coercions and the six comparisons

A value is either brought to the kind of another one or it is `Unconvertible`, and then none of the
comparisons holds, not even `!=`. What it is brought to has the kind of the other value, stays as it
is when it is brought there once more, and can be ordered; so the comparisons say of the pair what
they say of an ordering (`coerceLike_coherent`).
-/

namespace ConditionalTemplate

/-- The answers to the six comparisons are those of one ordering. -/
structure Comparison.Coherent (answer : Comparison → Bool) : Prop where
  exactlyOne : ∃! c, c ∈ [less, equal, greater] ∧ answer c = true
  notEqual : answer notEqual = !answer equal
  atMost : answer atMost = (answer less || answer equal)
  atLeast : answer atLeast = (answer greater || answer equal)

theorem Comparison.coherent_holds (o : Ordering) : Coherent fun c => c.holds o := by
  refine ⟨?_, by cases o <;> rfl, by cases o <;> rfl, by cases o <;> rfl⟩
  cases o with
  | lt =>
    refine ⟨less, by simp [holds], ?_⟩
    rintro c ⟨hc, hholds⟩
    cases c <;> simp_all [holds]
  | eq =>
    refine ⟨equal, by simp [holds], ?_⟩
    rintro c ⟨hc, hholds⟩
    cases c <;> simp_all [holds]
  | gt =>
    refine ⟨greater, by simp [holds], ?_⟩
    rintro c ⟨hc, hholds⟩
    cases c <;> simp_all [holds]

namespace Value

open Integer (FitsInt64 Written)
open Rounding (IsHalfEven)
open Text (trim)
open Text.Tag (Spells)

variable {left right r : Value} {s : List Char} {b : Bool}

/-- Nothing and sequences. -/
def IsUnordered : Value → Prop
  | null | sequence _ => True
  | bool _ | int _ | decimal _ | text _ => False

def IsSameKind : Value → Value → Prop
  | null, null | bool _, bool _ | int _, int _ | decimal _, decimal _ | text _, text _
  | sequence _, sequence _ => True
  | _, _ => False

/-- Why the right value cannot be brought to the kind of the left one. -/
inductive Unconvertible : (left right : Value) → Prop where
  | toUnordered {left right : Value} (h : left.IsUnordered) : Unconvertible left right
  | ofUnordered {left right : Value} (h : right.IsUnordered) : Unconvertible left right
  | textToBool {b : Bool} {s : String}
    (h : ∀ b', ¬Spells (boolText b') (trim s.toList)) : Unconvertible (bool b) (text s)
  | textToInt {n : Int64} {s : String}
    (h : ∀ z, Written (trim s.toList) z → ¬FitsInt64 z) : Unconvertible (int n) (text s)
  | decimalToInt {n : Int64} {d : Decimal} {q : ℤ} (hq : IsHalfEven d.value q)
    (h : ¬FitsInt64 q) : Unconvertible (int n) (decimal d)
  | textToDecimal {d : Decimal} {s : String} (h : Decimal.read? (trim s.toList) = none) :
    Unconvertible (decimal d) (text s)

/-! ### Reading from text -/

theorem readBool?_eq_some_iff : readBool? s = some b ↔ Spells (boolText b) s := by
  have hlower (b : Bool) : (boolText b).map Char.toLower = boolText b := by cases b <;> decide
  rw [Spells, hlower, readBool?]
  cases b <;> split <;> simp_all [boolText]

theorem readBool?_eq_none_iff : readBool? s = none ↔ ∀ b, ¬Spells (boolText b) s := by
  rw [Option.eq_none_iff_forall_ne_some]
  exact forall_congr' fun b => not_congr readBool?_eq_some_iff

theorem readInt64_eq_none_iff : (Integer.read? s).bind Integer.ofInt64? = none ↔
    ∀ z, Written s z → ¬FitsInt64 z := by
  rw [Option.bind_eq_none_iff]
  refine forall_congr' fun z => ?_
  rw [Integer.read?_eq_some_iff, Integer.ofInt64?_eq_none_iff]

theorem ofInt64?_round_eq_none_iff {d : Decimal} : Integer.ofInt64? d.round = none ↔
    ∃ q, IsHalfEven d.value q ∧ ¬FitsInt64 q := by
  rw [Integer.ofInt64?_eq_none_iff]
  constructor
  · intro h
    exact ⟨d.round, d.isHalfEven_round, h⟩
  · rintro ⟨q, hq, h⟩
    rwa [← hq.unique d.isHalfEven_round]

/-! ### What is coerced -/

theorem coerceLike_eq_none_iff : right.coerceLike left = none ↔ Unconvertible left right := by
  constructor
  · intro h
    cases left with
    | null | sequence => exact .toUnordered trivial
    | bool b =>
      cases right with
      | null | sequence => exact .ofUnordered trivial
      | bool | int | decimal => cases h
      | text s => exact .textToBool (readBool?_eq_none_iff.mp (Option.map_eq_none_iff.mp h))
    | int n =>
      cases right with
      | null | sequence => exact .ofUnordered trivial
      | bool | int => cases h
      | decimal d =>
        obtain ⟨q, hq, hrange⟩ := ofInt64?_round_eq_none_iff.mp (Option.map_eq_none_iff.mp h)
        exact .decimalToInt hq hrange
      | text s => exact .textToInt (readInt64_eq_none_iff.mp (Option.map_eq_none_iff.mp h))
    | decimal d =>
      cases right with
      | null | sequence => exact .ofUnordered trivial
      | bool | int | decimal => cases h
      | text s => exact .textToDecimal (Option.map_eq_none_iff.mp h)
    | text t =>
      cases right with
      | null | sequence => exact .ofUnordered trivial
      | bool | int | decimal | text => cases h
  · intro h
    cases h with
    | toUnordered h =>
      cases left with
      | null | sequence => rfl
      | bool | int | decimal | text => cases h
    | ofUnordered h =>
      cases right with
      | null | sequence => cases left <;> rfl
      | bool | int | decimal | text => cases h
    | textToBool h => exact Option.map_eq_none_iff.mpr (readBool?_eq_none_iff.mpr h)
    | textToInt h => exact Option.map_eq_none_iff.mpr (readInt64_eq_none_iff.mpr h)
    | decimalToInt hq h =>
      exact Option.map_eq_none_iff.mpr (ofInt64?_round_eq_none_iff.mpr ⟨_, hq, h⟩)
    | textToDecimal h => exact Option.map_eq_none_iff.mpr h

theorem coerceLike_text (s t : String) : (text s).coerceLike (text t) = some (text s) :=
  congrArg (fun l => some (text l)) (String.ofList_toList (s := s))

/-- What is coerced has the other kind, is coerced to itself, and can be ordered. -/
theorem of_coerceLike_eq_some (h : right.coerceLike left = some r) :
    r.IsSameKind left ∧ r.coerceLike left = some r ∧ ∃ o, left.order? r = some o := by
  cases left with
  | null | sequence => cases h
  | bool b =>
    obtain ⟨c, -, rfl⟩ := Option.map_eq_some_iff.mp h
    exact ⟨trivial, rfl, _, rfl⟩
  | int n =>
    obtain ⟨m, -, rfl⟩ := Option.map_eq_some_iff.mp h
    exact ⟨trivial, rfl, _, rfl⟩
  | decimal d =>
    obtain ⟨e, -, rfl⟩ := Option.map_eq_some_iff.mp h
    exact ⟨trivial, rfl, _, rfl⟩
  | text t =>
    obtain ⟨s, -, rfl⟩ := Option.map_eq_some_iff.mp h
    exact ⟨trivial, coerceLike_text s t, _, rfl⟩

/-- Either the right value cannot be brought to the kind of the left one, for one of the causes that
there are, and no comparison holds; or it is brought there once and for all, and the comparisons
agree with each other. -/
theorem coerceLike_coherent (left right : Value) :
    (right.coerceLike left = none ↔ Unconvertible left right) ∧
    (right.coerceLike left = none → ∀ c, left.satisfies right c = false) ∧
    ∀ r, right.coerceLike left = some r → r.IsSameKind left ∧ r.coerceLike left = some r ∧
      Comparison.Coherent (left.satisfies right) := by
  refine ⟨coerceLike_eq_none_iff, ?_, ?_⟩
  · intro h c
    rw [satisfies, h]
    rfl
  · intro r h
    obtain ⟨hkind, hfixed, o, ho⟩ := of_coerceLike_eq_some h
    have hanswers : left.satisfies right = fun c => c.holds o :=
      funext (satisfies_of_coerceLike h ho)
    exact ⟨hkind, hfixed, hanswers ▸ Comparison.coherent_holds o⟩

theorem coerceLike_coherent_padded :
    ((text "1.5").coerceLike (int 2) = none ∧
      ∀ c, (int 2).satisfies (text "1.5") c = false) ∧
    (text " +007 ").coerceLike (int 5) = some (int 7) ∧
      (int 7).coerceLike (int 5) = some (int 7) ∧
      Comparison.Coherent ((int 5).satisfies (text " +007 ")) := by
  have hnone : (text "1.5").coerceLike (int 2) = none := rfl
  have hsome : (text " +007 ").coerceLike (int 5) = some (int 7) := rfl
  exact ⟨⟨hnone, (coerceLike_coherent (int 2) (text "1.5")).2.1 hnone⟩, hsome,
    ((coerceLike_coherent (int 5) (text " +007 ")).2.2 _ hsome).2⟩

end Value

end ConditionalTemplate
