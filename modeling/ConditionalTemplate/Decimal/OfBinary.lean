import ConditionalTemplate.Binary64.Printer
import ConditionalTemplate.Decimal.Reader

/-!
# Decimals of doubles

A double becomes the decimal that its shortest text writes. Where that text is no decimal, the
double is converted by its binary digits, as far as there is a decimal for it; else it becomes zero
if it is small, and the largest or the least decimal if it is not.
-/

namespace ConditionalTemplate

/-- A conversion of doubles by their binary digits; it may have nothing for a double. -/
class BinaryConversion where
  decimal? : Binary64 → Option Decimal

namespace Decimal

/-- The number `mantissa * 10 ^ exponent`. -/
structure Fraction where
  mantissa : Nat
  exponent : Int

namespace Fraction

/-- Divides by two: exactly if the mantissa is even, else as `5 / 10` while five mantissas fit 96
bits, else by dropping the last bit. -/
def halve (f : Fraction) : Fraction :=
  if f.mantissa % 2 = 0 then ⟨f.mantissa / 2, f.exponent⟩
  else if 5 * f.mantissa < bound then ⟨5 * f.mantissa, f.exponent - 1⟩
  else ⟨f.mantissa / 2, f.exponent⟩

/-- Drops the last digit, rounded half up. -/
def dropDigit (f : Fraction) : Fraction :=
  ⟨f.mantissa / 10 + (if 5 ≤ f.mantissa % 10 then 1 else 0), f.exponent + 1⟩

/-- Drops digits until the exponent is at least -28; nothing is left of a mantissa of one digit. -/
def fitScale (f : Fraction) : Nat → Fraction
  | 0 => f
  | steps + 1 =>
    if f.mantissa < 10 then ⟨0, 0⟩ else f.dropDigit.fitScale steps

/-- Drops digits of a fraction until the mantissa is below `2 ^ 52`. -/
def fitPrecision (f : Fraction) : Nat → Fraction
  | 0 => f
  | steps + 1 =>
    if f.exponent < 0 ∧ Binary64.leading ≤ f.mantissa then f.dropDigit.fitPrecision steps else f

/-- Takes trailing zeros off a fraction. -/
def strip (f : Fraction) : Nat → Fraction
  | 0 => f
  | steps + 1 =>
    if f.exponent < 0 ∧ f.mantissa % 10 = 0 then
      strip ⟨f.mantissa / 10, f.exponent + 1⟩ steps
    else f

end Fraction

/-- The decimal of a double by halving its mantissa, once for each power of two that is missing. -/
def ofHalved? (f : Binary64) : Option Decimal :=
  let halved := (List.range (1074 - f.power)).foldl (fun g _ => g.halve)
    (⟨f.mantissa, 0⟩ : Fraction)
  let scaled := halved.fitScale (-28 - halved.exponent).toNat
  let precise := scaled.fitPrecision 28
  let stripped := precise.strip 28
  ofParts? f.negative stripped.mantissa (-stripped.exponent).toNat

/-- The decimal of a double by doubling its mantissa; none if 96 bits are too few for that. -/
def ofDoubled? (f : Binary64) : Option Decimal :=
  ofParts? f.negative (f.mantissa * Nat.pow 2 (f.power - 1074)) 0

instance binaryConversion : BinaryConversion where
  decimal? f := if f.power < 1074 then ofHalved? f else ofDoubled? f

/-- The decimal of a double. -/
def ofBinary [BinaryConversion] (f : Binary64) : Decimal :=
  match read? f.text with
  | some d => d
  | none =>
    match BinaryConversion.decimal? f with
    | some d => d
    | none => if f.magnitude < Binary64.one then zero else if f.negative then min else max

end Decimal

end ConditionalTemplate
