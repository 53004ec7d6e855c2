import ConditionalTemplate.Text.Tag
import ConditionalTemplate.Text.Width

/-!
# Segments of a template

A template is a sequence of literal texts and blocks. `scan` cuts a text into them: from left to
right, wherever a block can be read a block is taken, and every other character is literal.
Nothing is lost: the texts of the segments make up the template.
-/

namespace ConditionalTemplate

/-- A kind of block. -/
inductive BlockKind where
  | condition
  | presence
deriving DecidableEq, Repr

/-- The keyword of a kind of block. -/
def BlockKind.keyword : BlockKind → String
  | condition => "if"
  | presence => "between"

/-- How the blocks of one kind are written and taken off the front of a text. -/
class Block (β : Type) where
  kind : BlockKind
  text : β → List Char
  read? : List Char → Option (β × List Char)
  eq_append_of_read? {s rest : List Char} {b : β} :
    read? s = some (b, rest) → s = text b ++ rest
  length_lt_of_read? {s rest : List Char} {b : β} :
    read? s = some (b, rest) → rest.length < s.length

/-- A literal part or a block, each in the form `α` and `β` give it. -/
inductive Segment (α β : Type) where
  | literal (a : α)
  | block (b : β)
deriving DecidableEq, Repr

namespace Template

variable {β : Type}

/-- A template cut into literal texts and blocks. -/
abbrev Segments (β : Type) := List (Segment (List Char) β)

/-- Puts a character in front of the segments, into the literal that stands there. -/
def consLiteral (c : Char) : Segments β → Segments β
  | .literal t :: segments => .literal (c :: t) :: segments
  | segments => .literal [c] :: segments

/-- Cuts a text into literal texts and blocks. -/
def scan [Block β] : List Char → Segments β
  | [] => []
  | c :: s =>
    match h : Block.read? (β := β) (c :: s) with
    | some (b, rest) =>
      have := Block.length_lt_of_read? h
      .block b :: scan rest
    | none => consLiteral c (scan s)
termination_by s => s.length
decreasing_by
  · assumption
  · exact Nat.lt_succ_self _

/-- The text of a segment. -/
def segmentText [Block β] : Segment (List Char) β → List Char
  | .literal t => t
  | .block b => Block.text b

theorem flatMap_consLiteral [Block β] (c : Char) (segments : Segments β) :
    (consLiteral c segments).flatMap segmentText = c :: segments.flatMap segmentText := by
  match segments with
  | [] => rfl
  | .literal t :: segments => rfl
  | .block b :: segments => rfl

/-- The segments make up the template. -/
theorem flatMap_scan [Block β] (s : List Char) :
    (scan s : Segments β).flatMap segmentText = s := by
  fun_induction scan (β := β) s with
  | case1 => rfl
  | case2 c s b rest h _ ih =>
    rw [List.flatMap_cons, ih]
    exact (Block.eq_append_of_read? h).symm
  | case3 c s _ ih => rw [flatMap_consLiteral, ih]

end Template

end ConditionalTemplate
