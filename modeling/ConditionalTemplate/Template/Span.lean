import ConditionalTemplate.Template.PresenceBlock

/-!
# Spans

Where the segments of a template stand in it, as ranges of bytes of the UTF-8 form.
-/

namespace ConditionalTemplate

/-- The bytes from `start` up to but not including `stop`. -/
structure Span where
  start : Nat
  stop : Nat
deriving DecidableEq, Repr

/-- The span of a text that begins at a position. -/
def Span.ofText (start : Nat) (s : List Char) : Span :=
  ⟨start, start + Text.width s⟩

/-- The part of a text that a span covers, if both its ends are positions of characters. -/
def Span.slice? (span : Span) (s : List Char) : Option (List Char) := do
  let (_, after) ← Text.splitAt? span.start s
  let (covered, _) ← Text.splitAt? (span.stop - span.start) after
  if span.start ≤ span.stop then some covered else none

/-- The spans of a condition block and its parts. -/
structure ConditionSpans where
  whole : Span
  condition : Span
  body : Span
  otherwise : Option Span
deriving DecidableEq, Repr

def ConditionBlock.spans (start : Nat) (b : ConditionBlock) : ConditionSpans :=
  let condition := start + Text.width (b.opener ++ b.gap)
  let body := condition + Text.width (b.condition ++ b.trail ++ Template.tagEnd)
  { whole := .ofText start b.text
    condition := .ofText condition b.condition
    body := .ofText body b.body
    otherwise := b.otherwise.map fun clause =>
      .ofText (body + Text.width (b.body ++ clause.tag)) clause.body }

/-- The spans of a presence block and its parts. -/
structure PresenceSpans where
  whole : Span
  first : Span
  second : Span
  body : Span
deriving DecidableEq, Repr

def PresenceBlock.spans (start : Nat) (b : PresenceBlock) : PresenceSpans :=
  let first := start + Text.width (b.opener ++ b.gap)
  let second := first + Text.width (b.first ++ b.separator)
  { whole := .ofText start b.text
    first := .ofText first b.first
    second := .ofText second b.second
    body := .ofText (second + Text.width (b.second ++ Template.tagEnd)) b.body }

namespace Template

/-- The places of segments that begin at a position, where `place` gives the places of a block. -/
def locate {β γ : Type} [Block β] (place : Nat → β → γ) (start : Nat) :
    Segments β → List (Segment Span γ)
  | [] => []
  | .literal t :: rest => .literal (.ofText start t) :: locate place (start + Text.width t) rest
  | .block b :: rest =>
    .block (place start b) :: locate place (start + Text.width (Block.text b)) rest

/-- The places of the condition blocks of a template and of the text between them. -/
def conditionSpans (s : List Char) : List (Segment Span ConditionSpans) :=
  locate ConditionBlock.spans 0 (scan s)

/-- The places of the presence blocks of a template and of the text between them. -/
def presenceSpans (s : List Char) : List (Segment Span PresenceSpans) :=
  locate PresenceBlock.spans 0 (scan s)

end Template

end ConditionalTemplate
