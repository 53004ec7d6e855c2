import ConditionalTemplate.Comparison
import ConditionalTemplate.Value.Basic

/-!
# Conditions

A condition asks whether a field is true, whether it satisfies a predicate, or how it compares with
a literal.
-/

namespace ConditionalTemplate

inductive Predicate where
  | notNull
  | isNull
  | notEmpty
  | empty
  | any
deriving DecidableEq, Repr

namespace Predicate

/-- How a template writes the predicate, in lower case. -/
def word : Predicate → List Char
  | notNull => ['n', 'o', 't', 'n', 'u', 'l', 'l']
  | isNull => ['i', 's', 'n', 'u', 'l', 'l']
  | notEmpty => ['n', 'o', 't', 'e', 'm', 'p', 't', 'y']
  | empty => ['e', 'm', 'p', 't', 'y']
  | any => ['a', 'n', 'y']

/-- All predicates. -/
def all : List Predicate :=
  [notNull, isNull, notEmpty, empty, any]

/-- Reads a predicate in any letter case. -/
def read? (s : List Char) : Option Predicate :=
  all.find? fun p => p.word == s.map Char.toLower

def holds : Predicate → Value → Bool
  | notNull, v => !v.isNull
  | isNull, v => v.isNull
  | notEmpty, v => v.isFilledText
  | empty, v => v.isEmptyText
  | any, v => v.hasItems

end Predicate

inductive Condition where
  | truthy (key : String) (negated : Bool)
  | predicate (key : String) (predicate : Predicate)
  | compare (key : String) (comparison : Comparison) (literal : Value)
deriving Inhabited

/-- The field a condition asks about. -/
def Condition.key : Condition → String
  | truthy key _ => key
  | predicate key _ => key
  | compare key _ _ => key

end ConditionalTemplate
