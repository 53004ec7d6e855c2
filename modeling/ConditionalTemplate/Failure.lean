/-!
# Failures

Why a template could not be loaded or rendered, and how each cause is worded. Where a record, the
settings or a file are at fault, the message is that of whoever found it.
-/

namespace ConditionalTemplate

inductive Failure where
  /-- No template under this path. -/
  | notFound (path : String)
  /-- A condition without words or with more than three. -/
  | malformedCondition (text : String)
  /-- A word that is no predicate or comparison where one has to stand. -/
  | unknownOperator (word : String)
  /-- Data that makes no record. -/
  | badRecord (message : String)
  /-- Settings that cannot be read. -/
  | badSettings (message : String)
  /-- A file that cannot be read. -/
  | unreadable (message : String)
deriving DecidableEq, Repr

def Failure.message : Failure → String
  | notFound path => "Template not found: " ++ path
  | malformedCondition text => "Invalid expression: " ++ text
  | unknownOperator word => "Invalid operator: " ++ word
  | badRecord message => "Invalid record: " ++ message
  | badSettings message => "Invalid configuration: " ++ message
  | unreadable message => "I/O error: " ++ message

end ConditionalTemplate
