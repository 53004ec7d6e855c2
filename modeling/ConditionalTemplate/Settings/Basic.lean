/-!
# Settings

Where templates are looked for, and whether the output of a render is normalized.
-/

namespace ConditionalTemplate

structure Settings where
  basePath : String := "."
  normalizeWhitespace : Bool := true
deriving DecidableEq, Repr

namespace Settings

/-- The fields of the settings. -/
inductive Field where
  | basePath
  | normalizeWhitespace
deriving DecidableEq, Repr

/-- The name of a field in JSON. -/
def Field.name : Field → String
  | basePath => "base_path"
  | normalizeWhitespace => "normalize_whitespace"

/-- The field of a name. -/
def Field.ofName? (name : List Char) : Option Field :=
  [basePath, normalizeWhitespace].find? fun f => f.name.toList = name

end Settings

end ConditionalTemplate
