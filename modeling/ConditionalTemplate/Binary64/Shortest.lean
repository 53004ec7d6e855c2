import ConditionalTemplate.Binary64.Basic

/-!
# Shortest decimals of doubles

A decimal reads back as a double if it lies in the interval of numbers that round to it. The
shortest such decimal is found on grids of powers of ten: the first grid, from the coarsest on,
that has a point in the interval next to the double's value.

Values are compared as natural numbers: bounds count `2 ^ -1076`, points count `10 ^ -400`.
-/

namespace ConditionalTemplate.Binary64

/-- How many units of the bounds make up one: each is a quarter of the least positive double. -/
def boundUnits : Nat :=
  4 * one

/-- How many units of the points make up one. -/
def pointUnits : Nat :=
  Nat.pow 10 400

/-- The interval that rounds to a double, in units of `2 ^ -1076`. -/
structure Interval where
  lower : Nat
  upper : Nat
  closed : Bool

/-- Half the distance to either neighbour, ends included if the mantissa is even. -/
def interval (f : Binary64) : Interval where
  lower := 4 * f.magnitude -
    if f.mantissa = leading ∧ 0 < f.power then Nat.pow 2 f.power else 2 * Nat.pow 2 f.power
  upper := 4 * f.magnitude + 2 * Nat.pow 2 f.power
  closed := f.mantissa % 2 == 0

/-- Whether `point` units of `10 ^ -400` lie in the interval. -/
def Interval.contains (i : Interval) (point : Nat) : Bool :=
  let p := point * boundUnits
  if i.closed then i.lower * pointUnits ≤ p && p ≤ i.upper * pointUnits
  else i.lower * pointUnits < p && p < i.upper * pointUnits

/-- Of two neighbours `n` and `n + 1` the one that lies in the interval; of two the nearer by the
side of the middle that the value is on, and in the middle the even one. -/
def choose? (lower upper : Bool) (side : Ordering) (n : Nat) : Option Nat :=
  match lower, upper with
  | false, false => none
  | true, false => some n
  | false, true => some (n + 1)
  | true, true =>
    match side with
    | .lt => some n
    | .gt => some (n + 1)
    | .eq => some (if n % 2 = 0 then n else n + 1)

/-- Chooses from the multiples `n` and `n + 1` of a step around the value `v`. -/
def nearer? (i : Interval) (v step n : Nat) : Option Nat :=
  choose? (i.contains (n * step)) (i.contains ((n + 1) * step))
    (compare (2 * v * pointUnits) ((2 * n + 1) * step * boundUnits)) n

/-- Tries the grids `10 ^ j` for `j` from `fuel - 1` down, in units of `10 ^ -400`. -/
def search (i : Interval) (v : Nat) : Nat → Nat × Nat
  | 0 => (v * pointUnits / boundUnits, 0)
  | j + 1 =>
    match nearer? i v (Nat.pow 10 j) (v * pointUnits / (boundUnits * Nat.pow 10 j)) with
    | some n => (n, j)
    | none => search i v j

/-- Takes trailing zeros off a positive number; the second part counts them. -/
def stripZeros (n zeros : Nat) : Nat × Nat :=
  if h : 0 < n ∧ n % 10 = 0 then stripZeros (n / 10) (zeros + 1) else (n, zeros)
termination_by n
decreasing_by omega

/-- The point of the coarsest grid with one in the double's interval next to its value, as a number
of steps and the power of ten that each step is, in units of `10 ^ -400`. -/
def gridPoint (f : Binary64) : Nat × Nat :=
  let v := 4 * f.magnitude
  search f.interval v (Nat.toDigits 10 (v * pointUnits / boundUnits)).length

/-- The shortest decimal that reads back as the double's magnitude, as digits and the exponent of
the last one; of several the nearest. -/
def shortest (f : Binary64) : Nat × Int :=
  let point := f.gridPoint
  let stripped := stripZeros point.1 point.2
  (stripped.1, stripped.2 - 400)

end ConditionalTemplate.Binary64
