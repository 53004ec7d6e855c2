import ConditionalTemplate.Text.Ranges
import ConditionalTemplate.Text.WordTable

/-!
# Word characters

The characters a bare name is made of: letters and digits of any script, and `_`.
-/

namespace ConditionalTemplate.Text

/-- Alphabetic characters, numbers (Nd, Nl, No) and the underscore. -/
def isWordChar (c : Char) : Bool :=
  c.isAlphanum || c == '_' || inRanges wordRanges c

end ConditionalTemplate.Text
