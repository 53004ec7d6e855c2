/-!
# Comparisons

The six comparisons and the orderings that satisfy them.
-/

namespace ConditionalTemplate

inductive Comparison where
  | equal
  | notEqual
  | greater
  | less
  | atLeast
  | atMost
deriving DecidableEq, Repr

namespace Comparison

/-- Whether the comparison holds of a pair with the given ordering. -/
def holds : Comparison → Ordering → Bool
  | equal, o => o.isEq
  | notEqual, o => o.isNe
  | greater, o => o.isGT
  | less, o => o.isLT
  | atLeast, o => o.isGE
  | atMost, o => o.isLE

/-- How a template writes the comparison. -/
def symbol : Comparison → List Char
  | equal => ['=', '=']
  | notEqual => ['!', '=']
  | greater => ['>']
  | less => ['<']
  | atLeast => ['>', '=']
  | atMost => ['<', '=']

/-- All comparisons. -/
def all : List Comparison :=
  [equal, notEqual, greater, less, atLeast, atMost]

/-- Reads a comparison by its symbol. -/
def read? (s : List Char) : Option Comparison :=
  all.find? fun c => c.symbol == s

end Comparison

end ConditionalTemplate
