import ConditionalTemplate.Binary64.Basic

/-!
# Arithmetic of doubles

Products and quotients of doubles, each rounded to the nearest double. A double is scaled by a power
of ten in such steps, and the power is itself a double; so the outcome need not be the double that
is nearest the number.
-/

namespace ConditionalTemplate.Binary64

/-- The double nearest a natural number, with a sign. -/
def ofNat? (negative : Bool) (n : Nat) : Option Binary64 :=
  nearest? negative (n * one) 1

/-- The double nearest the product; none if that is beyond the finite ones. -/
def mul? (f g : Binary64) : Option Binary64 :=
  nearest? (f.negative != g.negative) (f.magnitude * g.magnitude) one

/-- The double nearest the quotient; none if that is beyond the finite ones. -/
def div? (f g : Binary64) : Option Binary64 :=
  nearest? (f.negative != g.negative) (f.magnitude * one) g.magnitude

/-- The double nearest `10 ^ n`. -/
def tenPower? (n : Nat) : Option Binary64 :=
  ofScientific? false 1 n

/-- Multiplies by `10 ^ n`, if there is a double for it; beyond them only zero stays finite. -/
def timesTenPower? (f : Binary64) (n : Nat) : Option Binary64 :=
  if n ≤ 308 then (tenPower? n).bind f.mul?
  else if f.mantissa = 0 then some f
  else none

/-- Divides by `10 ^ 308` a number of times, as long as there is something left to divide. -/
def overTopPowers? (f : Binary64) : Nat → Option Binary64
  | 0 => some f
  | times + 1 =>
    if f.mantissa = 0 then some f
    else ((tenPower? 308).bind f.div?).bind fun g => g.overTopPowers? times

/-- Divides by `10 ^ n`: by `10 ^ 308` as long as there is no double for the power. -/
def overTenPower? (f : Binary64) (n : Nat) : Option Binary64 :=
  let times := (n - 1) / 308
  (f.overTopPowers? times).bind fun g => (tenPower? (n - 308 * times)).bind g.div?

/-- Multiplies by a power of ten, or divides by it if the exponent is negative. -/
def scale? (f : Binary64) : Int → Option Binary64
  | .ofNat n => f.timesTenPower? n
  | .negSucc n => f.overTenPower? (n + 1)

end ConditionalTemplate.Binary64
