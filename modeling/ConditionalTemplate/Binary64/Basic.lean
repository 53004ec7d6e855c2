import ConditionalTemplate.Rounding

/-!
# Doubles

The finite doubles, as a sign and a magnitude counted in the least positive one, `2 ^ -1074`. A
quotient of natural numbers is rounded to the nearest of them.
-/

namespace ConditionalTemplate

/-- Mantissas are less than `2 ^ 53`. -/
abbrev Binary64.bound : Nat := 0x20000000000000

/-- The least mantissa of all 53 bits. -/
abbrev Binary64.leading : Nat := 0x10000000000000

/-- A finite double: its magnitude is `mantissa * 2 ^ power` times `2 ^ -1074`. -/
structure Binary64 where
  negative : Bool
  mantissa : Nat
  power : Nat
  mantissa_lt : mantissa < Binary64.bound
  power_le : power ≤ 2045
  normal : Binary64.leading ≤ mantissa ∨ power = 0
deriving DecidableEq

namespace Binary64

/-- The double of the given parts, if they are in range. -/
def ofParts? (negative : Bool) (mantissa power : Nat) : Option Binary64 :=
  if h : mantissa < bound ∧ power ≤ 2045 ∧ (leading ≤ mantissa ∨ power = 0) then
    some ⟨negative, mantissa, power, h.1, h.2.1, h.2.2⟩
  else none

def zero (negative : Bool) : Binary64 :=
  ⟨negative, 0, 0, by decide, by decide, .inr rfl⟩

/-- How often the least positive double is contained in one. -/
def one : Nat :=
  Nat.pow 2 1074

/-- The magnitude in units of `2 ^ -1074`. -/
def magnitude (f : Binary64) : Nat :=
  f.mantissa * Nat.pow 2 f.power

/-- The least power whose multiples below `2 ^ 53` reach `n / d`. -/
def powerOf (n d : Nat) : Nat :=
  let guess := n.log2 - (d.log2 + 52)
  if 0 < guess ∧ n < d * Nat.pow 2 (guess + 52) then guess - 1 else guess

/-- The double nearest `n / d` units of `2 ^ -1074`, with the even mantissa of two equally near
ones; none if that is beyond the finite ones. -/
def nearest? (negative : Bool) (n d : Nat) : Option Binary64 :=
  let power := powerOf n d
  let mantissa := Rounding.halfEven n (d * Nat.pow 2 power)
  if mantissa = bound then ofParts? negative leading (power + 1)
  else ofParts? negative mantissa power

/-- Whether `coefficient * 10 ^ exponent` is at least `10 ^ 310`, and so beyond every double. -/
def isHuge (coefficient : Nat) (exponent : Int) : Bool :=
  coefficient != 0 && 310 < (Nat.toDigits 10 coefficient).length + exponent

/-- Whether `coefficient * 10 ^ exponent` is below `10 ^ -330`, and so nearest to zero. -/
def isTiny (coefficient : Nat) (exponent : Int) : Bool :=
  coefficient == 0 || (Nat.toDigits 10 coefficient).length + exponent < -330

/-- The double nearest `coefficient * 10 ^ exponent`; none if that is beyond the finite ones. -/
def ofScientific? (negative : Bool) (coefficient : Nat) (exponent : Int) : Option Binary64 :=
  if isTiny coefficient exponent then some (zero negative)
  else if isHuge coefficient exponent then none
  else
    nearest? negative (coefficient * Nat.pow 10 exponent.toNat * one)
      (Nat.pow 10 (-exponent).toNat)

end Binary64

end ConditionalTemplate
