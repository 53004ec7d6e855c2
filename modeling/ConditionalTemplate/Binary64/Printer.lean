import ConditionalTemplate.Binary64.Shortest

/-!
# Writing doubles

The shortest digits of a double, in plain notation with at least one digit after the point, or in
scientific notation (`1.5e+16`, `1e-7`) where plain notation would grow long.
-/

namespace ConditionalTemplate.Binary64

/-- Which numbers are written in plain notation: those from `10 ^ least` below `10 ^ most`. -/
structure Layout where
  least : Int
  most : Int

/-- Plain notation from `0.00001` below `10000000000000000`. -/
def layout : Layout := ⟨-5, 16⟩

/-- Writes `0.d₁d₂… * 10 ^ point` in plain notation. -/
def plainText (digits : List Char) (point : Int) : List Char :=
  if point ≤ 0 then '0' :: '.' :: List.replicate (-point).toNat '0' ++ digits
  else if digits.length ≤ point.toNat then
    digits ++ List.replicate (point.toNat - digits.length) '0' ++ ['.', '0']
  else digits.take point.toNat ++ '.' :: digits.drop point.toNat

/-- Writes an exponent, always with a sign. -/
def exponentText (n : Int) : List Char :=
  'e' :: (if n < 0 then '-' else '+') :: Nat.toDigits 10 n.natAbs

/-- Writes `0.d₁d₂… * 10 ^ point` in scientific notation. -/
def scientificText (digits : List Char) (point : Int) : List Char :=
  (match digits with
    | [] => []
    | [d] => [d]
    | d :: rest => d :: '.' :: rest) ++ exponentText (point - 1)

def magnitudeText (f : Binary64) : List Char :=
  if f.mantissa = 0 then ['0', '.', '0']
  else
    let (n, exponent) := f.shortest
    let digits := Nat.toDigits 10 n
    let point := exponent + digits.length
    if layout.least < point ∧ point ≤ layout.most then plainText digits point
    else scientificText digits point

def text (f : Binary64) : List Char :=
  (if f.negative then ['-'] else []) ++ f.magnitudeText

end ConditionalTemplate.Binary64
