import ConditionalTemplate.Json.StringLiteral
import ConditionalTemplate.Settings.Basic
import ConditionalTemplate.Value.Display

/-!
# Writing settings

Settings as a compact JSON object with both fields.
-/

namespace ConditionalTemplate.Settings

/-- A member of the object: its name and the text of its value. -/
def writeMember (field : Field) (value : List Char) : List Char :=
  Json.writeString field.name.toList ++ ':' :: value

def write (settings : Settings) : List Char :=
  '\x7b' :: writeMember .basePath (Json.writeString settings.basePath.toList) ++
    ',' :: writeMember .normalizeWhitespace (Value.boolText settings.normalizeWhitespace) ++
    ['\x7d']

end ConditionalTemplate.Settings
