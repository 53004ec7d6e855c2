import ConditionalTemplate.Condition.Evaluation
import ConditionalTemplate.Report
import ConditionalTemplate.Template.PresenceBlock

/-!
# Resolving blocks

A pass replaces every block of one kind by the body that is kept, and reports each decision. A
condition that cannot be read ends the pass.
-/

namespace ConditionalTemplate

/-- Whether the condition of a block holds. -/
def ConditionBlock.decide (r : Record) (b : ConditionBlock) : Except Failure Bool :=
  Condition.evaluate b.condition r

/-- Whether both fields of a block are there and not null. -/
def PresenceBlock.decide (r : Record) (b : PresenceBlock) : Bool :=
  !(Record.get r (String.ofList b.first)).isNull && !(Record.get r (String.ofList b.second)).isNull

namespace Template

/-- Resolves the segments from left to right. -/
def resolve {β : Type} [Block β] (decide : β → Except Failure Bool) (kept : β → Bool → List Char) :
    Segments β → Report (List Char)
  | [] => pure []
  | .literal t :: rest => do
    let resolved ← resolve decide kept rest
    pure (t ++ resolved)
  | .block b :: rest => do
    let taken ← Report.ofExcept (decide b)
    Report.give (.call (.resolved (Block.kind β) taken))
    let resolved ← resolve decide kept rest
    pure (kept b taken ++ resolved)

/-- Resolves the condition blocks of a text. -/
def resolveConditions (r : Record) (s : List Char) : Report (List Char) :=
  resolve (ConditionBlock.decide r) ConditionBlock.kept (scan s)

/-- Resolves the presence blocks of a text. -/
def resolvePresences (r : Record) (s : List Char) : Report (List Char) :=
  resolve (fun b => .ok (PresenceBlock.decide r b)) PresenceBlock.kept (scan s)

end Template

end ConditionalTemplate
