import ConditionalTemplate.Binary64.Arithmetic
import ConditionalTemplate.Json.Basic
import ConditionalTemplate.Json.Fault

/-!
# JSON numbers

Reading the digits, fraction and exponent of a number. `readNumber` takes the value, `skipNumber`
only finds the end; they differ in the fault of a text that ends too early.

A double is read from the digits that fit 64 bits, which are then scaled by a power of ten. Two
roundings come after each other there, and digits may be left out, so what is read is close to the
number that is written, but it need not be the nearest double: `3e23` is read as the one below.
-/

namespace ConditionalTemplate.Json

/-- Takes the digits off the front of a text. -/
def digits (s : List Char) : List Char × List Char :=
  s.span Char.isDigit

/-- Reads the integer part: one zero, or digits that do not begin with it. -/
def readInteger (early : Fault) : List Char → Except Fault (List Char × List Char)
  | [] => .error early
  | c :: s =>
    if c = '0' then
      match s with
      | d :: _ => if d.isDigit then .error .invalidNumber else .ok (['0'], s)
      | [] => .ok (['0'], [])
    else if c.isDigit then .ok (digits (c :: s))
    else .error .invalidNumber

/-- Reads at least one digit. -/
def readDigits (early : Fault) (s : List Char) : Except Fault (List Char × List Char) :=
  match digits s with
  | ([], []) => .error early
  | ([], _) => .error .invalidNumber
  | p => .ok p

/-- Reads the digits after a point, if there is one. -/
def readFraction (early : Fault) : List Char → Except Fault (Option (List Char) × List Char)
  | '.' :: s => (readDigits early s).map fun (ds, rest) => (some ds, rest)
  | s => .ok (none, s)

/-- Takes the sign of an exponent off the front of a text; `true` stands for minus. -/
def exponentSign : List Char → Bool × List Char
  | '-' :: s => (true, s)
  | '+' :: s => (false, s)
  | s => (false, s)

/-- Reads the number after `e` or `E`, if there is one. -/
def readExponent (early : Fault) : List Char → Except Fault (Option Int × List Char)
  | [] => .ok (none, [])
  | c :: s =>
    if c = 'e' ∨ c = 'E' then do
      let (ds, rest) ← readDigits early (exponentSign s).2
      let n : Int := Nat.ofDigitChars 10 ds 0
      .ok (some (if (exponentSign s).1 then -n else n), rest)
    else .ok (none, c :: s)

/-- The parts of a number without its sign. -/
structure Literal where
  integer : List Char
  fraction : Option (List Char)
  exponent : Option Int

/-- Reads a number after its sign. -/
def readLiteral (early : Fault) (s : List Char) : Except Fault (Literal × List Char) := do
  let (integer, s) ← readInteger early s
  let (fraction, s) ← readFraction early s
  let (exponent, s) ← readExponent early s
  .ok (⟨integer, fraction, exponent⟩, s)

/-- Adds digits to a number as long as it fits 64 bits; what is left of them comes second. -/
def collectDigits (n : Nat) : List Char → Nat × List Char
  | [] => (n, [])
  | c :: s =>
    let grown := 10 * n + (c.toNat - '0'.toNat)
    if grown < UInt64.size then collectDigits grown s else (n, c :: s)

/-- The digits that fit 64 bits, and the power of ten they count. Of the digits that do not fit,
those in front of the point are made up for by the power. -/
def Literal.significand (l : Literal) : Nat × Int :=
  let fraction := l.fraction.getD []
  let (whole, beyond) := collectDigits 0 l.integer
  let (n, dropped) := collectDigits whole fraction
  (n, beyond.length - (fraction.length - dropped.length) + l.exponent.getD 0)

/-- The double that a literal is read as. -/
def Literal.double? (l : Literal) (isNegative : Bool) : Option Binary64 :=
  (Binary64.ofNat? isNegative l.significand.1).bind fun f => f.scale? l.significand.2

/-- The number that a literal is read as: an integer without fraction and exponent, if it fits 64
bits, else a double. Minus zero is a double. -/
def Literal.number? (l : Literal) (isNegative : Bool) : Option Number :=
  let isInteger := l.fraction.isNone && l.exponent.isNone
  let n := Nat.ofDigitChars 10 l.integer 0
  if isInteger && !isNegative && n < UInt64.size then some (.natural (UInt64.ofNat n))
  else if isInteger && isNegative && 0 < n && Int64.minValue.toInt ≤ -n then
    some (.negative (Int64.ofInt (-n)))
  else (l.double? isNegative).map .double

/-- Reads a number after its sign. -/
def readNumber (isNegative : Bool) (s : List Char) : Except Fault (Number × List Char) := do
  let (literal, rest) ← readLiteral .endInValue s
  match literal.number? isNegative with
  | some n => .ok (n, rest)
  | none => .error .numberOutOfRange

/-- Passes over a number after its sign. -/
def skipNumber (s : List Char) : Except Fault (List Char) :=
  (readLiteral .invalidNumber s).map (·.2)

end ConditionalTemplate.Json
