import ConditionalTemplate.Text.Blank

/-!
# Normalization

A kept body stands between the line breaks and the indentation of its tags. Three steps and a trim
tidy the text: a run of spaces and tabs becomes one space, white space before a line break goes,
and so does white space after one, blank lines with it.
-/

namespace ConditionalTemplate.Normalization

def isSpaceOrTab (c : Char) : Bool :=
  c == ' ' || c == '\t'

/-- Every run of spaces and tabs becomes one space; `inRun` tells that a run has begun. -/
def collapse (inRun : Bool) : List Char → List Char
  | [] => []
  | c :: s =>
    if isSpaceOrTab c then
      if inRun then collapse true s else ' ' :: collapse true s
    else c :: collapse false s

/-- Whether a line break follows, with nothing but white space before it. -/
def reachesBreak : List Char → Bool
  | [] => false
  | c :: s => c == '\n' || (Text.isBlank c && reachesBreak s)

/-- Of a run of white space only what follows its last line break stays, and the break itself. -/
def dropBefore : List Char → List Char
  | [] => []
  | c :: s =>
    if Text.isBlank c && reachesBreak s then dropBefore s else c :: dropBefore s

/-- Drops the white space after a line break; `inRun` tells that one stands before. -/
def dropAfter (inRun : Bool) : List Char → List Char
  | [] => []
  | c :: s =>
    if Text.isBlank c then
      if inRun then dropAfter true s else c :: dropAfter (c == '\n') s
    else c :: dropAfter false s

/-- The lines of a text that are not blank, trimmed and with single spaces. -/
def normalize (s : List Char) : List Char :=
  Text.trim (dropAfter false (dropBefore (collapse false s)))

end ConditionalTemplate.Normalization
