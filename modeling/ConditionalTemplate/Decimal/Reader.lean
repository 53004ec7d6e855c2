import ConditionalTemplate.Decimal.Basic
import ConditionalTemplate.Integer

/-!
# Reading decimals

`read?` takes plain notation (`-1.50`, `.5`, `5.`, `1_000`) or scientific notation
(`1.5e-3`). The scale is the number of digits after the point. Digits after the point that do
not fit are rounded off at the first of them; an integer part that does not fit is refused. A
separator does not change the value, with one exception: right after the 28th place of a short
mantissa it takes the place of the digit to round by, and counts as a zero.
-/

namespace ConditionalTemplate.Decimal

/-- Rounds a mantissa by the first digit that did not fit; a mantissa that overflows by that loses
its last digit. -/
def roundLast (mantissa scale next : Nat) : Option (Nat × Nat) :=
  if next < 5 then some (mantissa, scale)
  else if mantissa + 1 < bound then some (mantissa + 1, scale)
  else if scale = 0 then none
  else some ((mantissa + 1 + 4) / 10, scale - 1)

/-- A mantissa within 64 bits, with a margin of `2 ^ 8` below their end. -/
def isShort (mantissa : Nat) : Bool :=
  mantissa < UInt64.size - UInt8.size

/-- Rounds a mantissa by `next`, the digit in front of `s`. The digits in `s` are too small to
matter, but nothing else than digits and separators may come there. -/
def roundOff (mantissa scale next : Nat) (s : List Char) : Option (Nat × Nat) :=
  if s.all fun c => c.isDigit || c == '_' then roundLast mantissa scale next else none

/-- Reads digits, points and separators on from a mantissa and a scale. A point may come once, a
separator after the first digit; right after the 28th place of a short mantissa it stands for the
digit that does not fit, a zero. -/
def readDigits (started pointed : Bool) (mantissa scale : Nat) : List Char → Option (Nat × Nat)
  | [] => if started then some (mantissa, scale) else none
  | c :: s =>
    if c.isDigit then
      let next := c.toNat - '0'.toNat
      let grown := 10 * mantissa + next
      if !pointed then
        if grown < bound then readDigits true false grown 0 s else none
      else if scale < 28 ∧ grown < bound then readDigits true true grown (scale + 1) s
      else roundOff mantissa scale next s
    else if c = '.' ∧ !pointed then readDigits started true mantissa 0 s
    else if c = '_' ∧ started then
      if pointed ∧ scale = 28 ∧ isShort mantissa then roundOff mantissa scale 0 s
      else readDigits started pointed mantissa scale s
    else none

/-- Reads plain notation. Zero is never negative. -/
def readPlain? (s : List Char) : Option Decimal := do
  let (mantissa, scale) ← readDigits false false 0 0 (Integer.sign s).2
  ofParts? ((Integer.sign s).1 && mantissa != 0) mantissa scale

/-- Reads the number after the sign of an exponent. -/
def readExponent? : List Char → Option Nat
  | '+' :: s => Integer.readNat? s
  | s => Integer.readNat? s

/-- Moves the point `n ≤ 28` places to the left. Places beyond the 28th are rounded off, a half
away from zero. -/
def scaleDown? (d : Decimal) (n : Nat) : Option Decimal :=
  if 28 < n then none
  else if d.scale + n ≤ 28 then ofParts? d.negative d.mantissa (d.scale + n)
  else ofParts? d.negative (Rounding.halfUp d.mantissa (Nat.pow 10 (d.scale + n - 28))) 28

/-- Moves the point `n ≤ 28` places to the right. Places it does not have are filled up with
zeros. -/
def scaleUp? (d : Decimal) (n : Nat) : Option Decimal :=
  if n ≤ d.scale then ofParts? d.negative d.mantissa (d.scale - n)
  else if 28 < n then none
  else ofParts? d.negative (d.mantissa * Nat.pow 10 (n - d.scale)) 0

/-- Reads a plain number, `e` or `E`, and an exponent. -/
def readScientific? (s : List Char) : Option Decimal :=
  match s.span fun c => c != 'e' && c != 'E' with
  | (_, []) => none
  | (base, _ :: exponent) => do
    let d ← readPlain? base
    match exponent with
    | '-' :: e => d.scaleDown? (← readExponent? e)
    | e => d.scaleUp? (← readExponent? e)

/-- Reads a decimal in plain or scientific notation. -/
def read? (s : List Char) : Option Decimal :=
  readPlain? s <|> readScientific? s

end ConditionalTemplate.Decimal
