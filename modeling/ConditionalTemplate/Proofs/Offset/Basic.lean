import ConditionalTemplate.Proofs.Template.Leftmost
import ConditionalTemplate.Proofs.Text.Bytes
import ConditionalTemplate.Template.Resolution

/-!
# Templates by offsets

Scanning and resolving once more, on a text that is only ever looked at through byte offsets: tags
are searched for among its bytes, and every other look is a slice, which fails off the positions of
characters and beyond the end. A result `none` is such a failure.
-/

namespace ConditionalTemplate.Offset

open Text (width)
open Template (tagEnd between)

/-- The text from an offset on. -/
def after? (s : List Char) (start : Nat) : Option (List Char) :=
  (Text.splitAt? start s).map (·.2)

/-- The text up to an offset. -/
def upTo? (s : List Char) (stop : Nat) : Option (List Char) :=
  (Text.splitAt? stop s).map (·.1)

/-- A span; it must not end before its start. -/
def span? (start stop : Nat) : Option Span :=
  if start ≤ stop then some ⟨start, stop⟩ else none

/-- The end of the white space at an offset, if there is any. -/
def skipBlank? (s : List Char) (start : Nat) : Option (Option Nat) := do
  let rest ← after? s start
  let skipped := width rest - width (Text.trimStart rest)
  pure (if 0 < skipped then some (start + skipped) else none)

/-- The span of the word at an offset, if there is one. -/
def word? (s : List Char) (start : Nat) : Option (Option Span) := do
  let rest ← after? s start
  let taken := width (rest.takeWhile Text.isWordChar)
  if 0 < taken then (span? start (start + taken)).map some else pure none

/-- The span without the white space at its ends. -/
def trim? (s : List Char) (x : Span) : Option Span := do
  let text ← x.slice? s
  let start := x.start + (width text - width (Text.trimStart text))
  let stop := x.stop - (width text - width (Text.trimEnd text))
  span? start (max stop start)

/-- The span of the condition at an offset and the end of its tag, if that is on the same line. -/
def line? (s : List Char) (start : Nat) : Option (Option (Span × Nat)) := do
  let rest ← after? s start
  let some length ← Text.Tag.find? tagEnd rest 0 | pure none
  let line ← span? start (start + length)
  let text ← line.slice? s
  if text.contains '\n' then pure none else
  let condition ← trim? s line
  pure (some (condition, line.stop + width tagEnd))

/-- The spans of the bodies between two offsets, parted at the first else tag. -/
def bodies? (s : List Char) (start close : Nat) : Option (Span × Option Span) := do
  let before ← upTo? s close
  match ← Text.Tag.find? ConditionBlock.elseTag before start with
  | some middle =>
    let body ← span? start middle
    let otherwise ← span? (middle + width ConditionBlock.elseTag) close
    pure (body, some otherwise)
  | none =>
    let body ← span? start close
    pure (body, none)

/-- The condition block at the offset of an opener, if there is one. -/
def condition? (s : List Char) (here : Nat) : Option (Option ConditionSpans) := do
  let some start ← skipBlank? s (here + width ConditionBlock.openerTag) | pure none
  let some (condition, bodyStart) ← line? s start | pure none
  let some close ← Text.Tag.find? ConditionBlock.closerTag s bodyStart | pure none
  let (body, otherwise) ← bodies? s bodyStart close
  let whole ← span? here (close + width ConditionBlock.closerTag)
  pure (some ⟨whole, condition, body, otherwise⟩)

/-- The presence block at the offset of an opener, if there is one. -/
def presence? (s : List Char) (here : Nat) : Option (Option PresenceSpans) := do
  let some firstStart ← skipBlank? s (here + width PresenceBlock.openerTag) | pure none
  let some first ← word? s firstStart | pure none
  let some secondStart ← skipBlank? s first.stop | pure none
  let some second ← word? s secondStart | pure none
  let rest ← after? s second.stop
  if (Text.Tag.read? tagEnd rest).isNone then pure none else
  let bodyStart := second.stop + width tagEnd
  let some close ← Text.Tag.find? PresenceBlock.closerTag s bodyStart | pure none
  let whole ← span? here (close + width PresenceBlock.closerTag)
  let body ← span? bodyStart close
  pure (some ⟨whole, first, second, body⟩)

/-- The segments from an offset on, of which all before `searched` is known to be literal. The loop
fails if it is not done after the given number of turns. -/
def scan? {γ : Type} (opener : List Char) (whole : γ → Span) (block? : Nat → Option (Option γ))
    (s : List Char) : (turns start searched : Nat) → Option (List (Segment Span γ))
  | 0, _, _ => none
  | turns + 1, start, searched => do
    match ← Text.Tag.find? opener s searched with
    | none => pure (between start (width s))
    | some here =>
      match ← block? here with
      | some g =>
        let rest ← scan? opener whole block? s turns (whole g).stop (whole g).stop
        pure (between start here ++ .block g :: rest)
      | none => scan? opener whole block? s turns start (here + 1)

/-- One turn for each character and one at the end are enough. -/
def scanConditions? (s : List Char) : Option (List (Segment Span ConditionSpans)) :=
  scan? ConditionBlock.openerTag ConditionSpans.whole (condition? s) s (s.length + 1) 0 0

def scanPresences? (s : List Char) : Option (List (Segment Span PresenceSpans)) :=
  scan? PresenceBlock.openerTag PresenceSpans.whole (presence? s) s (s.length + 1) 0 0

/-- The text of located segments in which every block is resolved. -/
def resolve? {γ : Type} (kind : BlockKind) (decide? : γ → Option (Except Failure Bool))
    (kept? : γ → Bool → Option (List Char)) (s : List Char) :
    List (Segment Span γ) → Option (Report (List Char))
  | [] => some (pure [])
  | .literal x :: rest => do
    let text ← x.slice? s
    let resolved ← resolve? kind decide? kept? s rest
    some do
      let resolved ← resolved
      pure (text ++ resolved)
  | .block g :: rest => do
    match ← decide? g with
    | .error failure => some (Report.ofExcept (.error failure))
    | .ok taken =>
      let text ← kept? g taken
      let resolved ← resolve? kind decide? kept? s rest
      some do
        Report.give (.call (.resolved kind taken))
        let resolved ← resolved
        pure (text ++ resolved)

def decideCondition? (r : Record) (s : List Char) (g : ConditionSpans) :
    Option (Except Failure Bool) :=
  (g.condition.slice? s).map fun condition => Condition.evaluate condition r

def keptCondition? (s : List Char) (g : ConditionSpans) (taken : Bool) : Option (List Char) :=
  if taken then g.body.slice? s
  else match g.otherwise with
    | some otherwise => otherwise.slice? s
    | none => some []

/-- The second name is looked at only if the first field is there. -/
def decidePresence? (r : Record) (s : List Char) (g : PresenceSpans) :
    Option (Except Failure Bool) := do
  let first ← g.first.slice? s
  if (Record.get r (String.ofList first)).isNull then some (.ok false) else
  let second ← g.second.slice? s
  some (.ok !(Record.get r (String.ofList second)).isNull)

def keptPresence? (s : List Char) (g : PresenceSpans) (taken : Bool) : Option (List Char) :=
  if taken then g.body.slice? s else some []

def resolveConditions? (r : Record) (s : List Char) : Option (Report (List Char)) := do
  let segments ← scanConditions? s
  resolve? .condition (decideCondition? r s) (keptCondition? s) s segments

def resolvePresences? (r : Record) (s : List Char) : Option (Report (List Char)) := do
  let segments ← scanPresences? s
  resolve? .presence (decidePresence? r s) (keptPresence? s) s segments

end ConditionalTemplate.Offset
