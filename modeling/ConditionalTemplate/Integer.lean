/-!
# Integers in text

An integer is written as an optional sign and at least one decimal digit.
-/

namespace ConditionalTemplate.Integer

/-- Takes a sign off the front; `true` stands for minus. -/
def sign : List Char → Bool × List Char
  | '-' :: s => (true, s)
  | '+' :: s => (false, s)
  | s => (false, s)

/-- Reads a text that is a natural number in decimal digits. -/
def readNat? (s : List Char) : Option Nat :=
  if s ≠ [] ∧ s.all Char.isDigit then some (Nat.ofDigitChars 10 s 0) else none

/-- Reads a text that is an integer. -/
def read? (s : List Char) : Option Int :=
  (readNat? (sign s).2).map fun n => if (sign s).1 then -n else n

/-- Reads an integer from `lo` to `hi`. -/
def readWithin? (lo hi : Int) (s : List Char) : Option Int :=
  (read? s).filter fun n => lo ≤ n ∧ n ≤ hi

/-- Writes an integer in decimal digits, with a minus sign in front if it is negative. -/
def text (n : Int) : List Char :=
  if n < 0 then '-' :: Nat.toDigits 10 n.natAbs else Nat.toDigits 10 n.natAbs

/-- The integers of 64 bits. -/
def ofInt64? (n : Int) : Option Int64 :=
  if Int64.minValue.toInt ≤ n ∧ n ≤ Int64.maxValue.toInt then some (Int64.ofInt n) else none

end ConditionalTemplate.Integer
