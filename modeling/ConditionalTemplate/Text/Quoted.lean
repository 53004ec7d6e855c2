import ConditionalTemplate.Text.HiddenTable
import ConditionalTemplate.Text.Ranges

/-!
# Quoted text

A text between quotes, with every character visible: what would not show stands as its number.
-/

namespace ConditionalTemplate.Text

/-- Control characters, and what does not show or joins the character before it. -/
def isHidden (c : Char) : Bool :=
  c.toNat < 0x20 || inRanges hiddenRanges c

/-- How a character stands between quotes. -/
def quotedChar (c : Char) : List Char :=
  if c = '\x00' then ['\\', '0']
  else if c = '\t' then ['\\', 't']
  else if c = '\n' then ['\\', 'n']
  else if c = '\x0d' then ['\\', 'r']
  else if c = '"' ∨ c = '\\' then ['\\', c]
  else if isHidden c then '\\' :: 'u' :: '\x7b' :: Nat.toDigits 16 c.toNat ++ ['\x7d']
  else [c]

def quoted (s : List Char) : List Char :=
  '"' :: s.flatMap quotedChar ++ ['"']

end ConditionalTemplate.Text
