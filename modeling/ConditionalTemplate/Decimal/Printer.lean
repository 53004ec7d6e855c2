import ConditionalTemplate.Decimal.Basic

/-!
# Writing decimals

A minus sign for a negative decimal, zero included, then the digits of the mantissa with the point
`scale` places from the right and at least one digit before it.
-/

namespace ConditionalTemplate.Decimal

/-- The digits with a point `scale` places from the right, filled up with zeros on the left. -/
def placePoint (digits : List Char) (scale : Nat) : List Char :=
  let padded := List.replicate (scale + 1 - digits.length) '0' ++ digits
  if scale = 0 then padded
  else padded.take (padded.length - scale) ++ '.' :: padded.drop (padded.length - scale)

def text (d : Decimal) : List Char :=
  (if d.negative then ['-'] else []) ++ placePoint (Nat.toDigits 10 d.mantissa) d.scale

end ConditionalTemplate.Decimal
