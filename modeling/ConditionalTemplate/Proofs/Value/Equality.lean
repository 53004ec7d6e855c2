import ConditionalTemplate.Condition.Evaluation
import ConditionalTemplate.Proofs.Decimal.Number

/-!
# Equal values

Values that are equal are the same, or decimals that stand for the same number, or sequences
(`same_cases`). No predicate, no comparison and so no condition can tell equal values apart
(`Condition.holdsOf_congr`).
-/

namespace ConditionalTemplate

namespace Value

variable {v w : Value}

mutual

theorem same_refl : ∀ v : Value, v.same v = true
  | null => rfl
  | bool b => beq_self_eq_true b
  | int n => beq_self_eq_true n
  | decimal _ => Decimal.sameValue_iff.mpr rfl
  | text s => beq_self_eq_true s
  | sequence items => sameItems_refl items

theorem sameItems_refl : ∀ items : List Value, sameItems items items = true
  | [] => rfl
  | v :: items => by rw [sameItems, same_refl v, sameItems_refl items]; rfl

end

theorem isEmpty_eq_of_sameItems {as bs : List Value} (h : sameItems as bs = true) :
    as.isEmpty = bs.isEmpty := by
  cases as with
  | nil =>
    cases bs with
    | nil => rfl
    | cons b bs => cases h
  | cons a as =>
    cases bs with
    | nil => cases h
    | cons b bs => rfl

/-- Decimals and sequences are all that can be equal without being the same. -/
theorem same_cases (h : v.same w = true) : v = w ∨
    (∃ d e, v = decimal d ∧ w = decimal e ∧ d.value = e.value) ∨
    ∃ as bs, v = sequence as ∧ w = sequence bs ∧ as.isEmpty = bs.isEmpty := by
  cases v <;> cases w <;> try cases h
  case null.null => exact .inl rfl
  case bool.bool a b => exact .inl (congrArg bool (beq_iff_eq.mp h))
  case int.int a b => exact .inl (congrArg int (beq_iff_eq.mp h))
  case text.text a b => exact .inl (congrArg text (beq_iff_eq.mp h))
  case decimal.decimal d e =>
    exact .inr (.inl ⟨d, e, rfl, rfl, Decimal.sameValue_iff.mp h⟩)
  case sequence.sequence as bs =>
    exact .inr (.inr ⟨as, bs, rfl, rfl, isEmpty_eq_of_sameItems h⟩)

theorem satisfies_congr_decimal {d e : Decimal} (h : d.value = e.value) (literal : Value)
    (c : Comparison) : (decimal d).satisfies literal c = (decimal e).satisfies literal c := by
  have horder : (decimal d).order? = (decimal e).order? := by
    funext x
    cases x <;> try rfl
    case decimal x => exact congrArg some (by rw [Decimal.order_eq, Decimal.order_eq, h])
  have hcoerce : literal.coerceLike (decimal d) = literal.coerceLike (decimal e) := rfl
  rw [satisfies, satisfies, horder, hcoerce]

end Value

theorem Condition.holdsOf_congr {v w : Value} (h : v.same w = true) (c : Condition) :
    c.holdsOf v = c.holdsOf w := by
  rcases Value.same_cases h with rfl | ⟨d, e, rfl, rfl, hde⟩ | ⟨as, bs, rfl, rfl, hab⟩
  · rfl
  · cases c with
    | truthy key negated => cases negated <;> rfl
    | predicate key p => cases p <;> rfl
    | compare key c literal => exact Value.satisfies_congr_decimal hde literal c
  · cases c with
    | truthy key negated => cases negated <;> rfl
    | predicate key p =>
      cases p with
      | any => exact congrArg (!·) hab
      | notNull | isNull | notEmpty | empty => rfl
    | compare key c literal => rfl

theorem Value.isNull_congr {v w : Value} (h : v.same w = true) : v.isNull = w.isNull := by
  rcases Value.same_cases h with rfl | ⟨d, e, rfl, rfl, -⟩ | ⟨as, bs, rfl, rfl, -⟩ <;> rfl

end ConditionalTemplate
