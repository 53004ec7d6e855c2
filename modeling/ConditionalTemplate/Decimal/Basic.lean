import ConditionalTemplate.Rounding

/-!
# Decimals

A decimal is a sign, a mantissa of 96 bits and a scale: the number of its digits after the point.
Trailing zeros and the sign of zero are part of it, though not of its value.
-/

namespace ConditionalTemplate

/-- Mantissas are less than `2 ^ 96`. -/
abbrev Decimal.bound : Nat := 79228162514264337593543950336

structure Decimal where
  negative : Bool
  mantissa : Nat
  scale : Nat
  mantissa_lt : mantissa < Decimal.bound
  scale_le : scale ≤ 28
deriving DecidableEq

namespace Decimal

/-- The decimal of the given parts, if they are in range. -/
def ofParts? (negative : Bool) (mantissa scale : Nat) : Option Decimal :=
  if h : mantissa < bound ∧ scale ≤ 28 then some ⟨negative, mantissa, scale, h.1, h.2⟩ else none

def zero : Decimal := ⟨false, 0, 0, by decide, by decide⟩

/-- The largest decimal. -/
def max : Decimal := ⟨false, bound - 1, 0, by decide, by decide⟩

/-- The least decimal. -/
def min : Decimal := ⟨true, bound - 1, 0, by decide, by decide⟩

def ofUInt64 (n : UInt64) : Decimal :=
  ⟨false, n.toNat, 0, Nat.lt_trans n.toNat_lt (by decide), by decide⟩

def ofInt64 (n : Int64) : Decimal :=
  ⟨decide (n.toInt < 0), n.toInt.natAbs, 0, by
    have := n.le_toInt; have := n.toInt_lt; simp only [bound]; omega, by decide⟩

def isZero (d : Decimal) : Bool :=
  d.mantissa == 0

/-- The mantissa with the sign: the value is `signed / 10 ^ scale`. -/
def signed (d : Decimal) : Int :=
  if d.negative then -d.mantissa else d.mantissa

/-- Compares the values: scale and the sign of zero do not matter. -/
def order (a b : Decimal) : Ordering :=
  compare (a.signed * (Nat.pow 10 b.scale : Nat)) (b.signed * (Nat.pow 10 a.scale : Nat))

/-- Whether two decimals have the same value. -/
def sameValue (a b : Decimal) : Bool :=
  a.order b == .eq

/-- The integer nearest the value; of two equally near ones the even one. -/
def round (d : Decimal) : Int :=
  let n := Rounding.halfEven d.mantissa (Nat.pow 10 d.scale)
  if d.negative then -n else n

end Decimal

end ConditionalTemplate
