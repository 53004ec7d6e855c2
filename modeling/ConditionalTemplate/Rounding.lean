/-!
# Rounding quotients

The integer nearest a quotient of natural numbers, by the choice that is made of two equally near
ones.
-/

namespace ConditionalTemplate.Rounding

/-- The integer nearest `n / d`; of two equally near ones the even one. -/
def halfEven (n d : Nat) : Nat :=
  if d < 2 * (n % d) ∨ (2 * (n % d) = d ∧ n / d % 2 = 1) then n / d + 1 else n / d

/-- The integer nearest `n / d`; of two equally near ones the larger one. -/
def halfUp (n d : Nat) : Nat :=
  if d ≤ 2 * (n % d) then n / d + 1 else n / d

end ConditionalTemplate.Rounding
