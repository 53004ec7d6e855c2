import ConditionalTemplate.Failure
import ConditionalTemplate.Json.Reader
import ConditionalTemplate.Settings.Fault

/-!
# Reading settings

Settings are read from an object, where other members are passed over, or from an array of the two
fields. What is left out keeps its default.
-/

namespace ConditionalTemplate.Settings

variable {α : Type}

/-- A fault of the text as a fault of the settings. -/
def ofJson (x : Except Json.Fault α) : Except Fault α :=
  x.mapError .malformed

/-- Reads the beginning of a value. -/
def readFound : List Char → Except Json.Fault Found
  | [] => .error .endInValue
  | c :: s =>
    if c = 'n' then (Json.readNull s).map fun _ => .null
    else if c = 't' then (Json.readTrue s).map fun _ => .boolean true
    else if c = 'f' then (Json.readFalse s).map fun _ => .boolean false
    else if c = '-' then (Json.readNumber true s).map fun (n, _) => .number n
    else if c.isDigit then (Json.readNumber false (c :: s)).map fun (n, _) => .number n
    else if c = '"' then (Json.readString s).map fun (t, _) => .string (String.ofList t)
    else if c = '[' then .ok .array
    else if c = '\x7b' then .ok .object
    else .error .expectedValue

/-- The fault of a text that does not begin with what is expected. -/
def refuse (expected : Expected) (s : List Char) : Except Fault α :=
  match readFound s with
  | .ok found => .error (.mismatch found expected)
  | .error fault => .error (.malformed fault)

/-- Reads a path. -/
def readPath (s : List Char) : Except Fault (String × List Char) :=
  match Json.skipBlanks s with
  | '"' :: s => ofJson ((Json.readString s).map fun (t, rest) => (String.ofList t, rest))
  | s => refuse .path s

/-- Reads a boolean. -/
def readBoolean (s : List Char) : Except Fault (Bool × List Char) :=
  match Json.skipBlanks s with
  | 't' :: s => ofJson ((Json.readTrue s).map fun rest => (true, rest))
  | 'f' :: s => ofJson ((Json.readFalse s).map fun rest => (false, rest))
  | s => refuse .boolean s

/-- The fields that have been read so far. -/
structure Fields where
  basePath : Option String := none
  normalizeWhitespace : Option Bool := none

namespace Fields

/-- Fields that have not been read get their defaults. -/
def settings (fields : Fields) : Settings :=
  let default : Settings := {}
  { basePath := fields.basePath.getD default.basePath
    normalizeWhitespace := fields.normalizeWhitespace.getD default.normalizeWhitespace }

def contains (fields : Fields) : Field → Bool
  | .basePath => fields.basePath.isSome
  | .normalizeWhitespace => fields.normalizeWhitespace.isSome

/-- Reads the value of a field. -/
def readField (fields : Fields) (field : Field) (s : List Char) :
    Except Fault (Fields × List Char) :=
  match field with
  | .basePath => (readPath s).map fun (path, rest) =>
    ({ fields with basePath := some path }, rest)
  | .normalizeWhitespace => (readBoolean s).map fun (b, rest) =>
    ({ fields with normalizeWhitespace := some b }, rest)

/-- Reads a member, from behind the first quote on. -/
def readMember (fields : Fields) (s : List Char) : Except Fault (Fields × List Char) := do
  let (name, s) ← ofJson (Json.readString s)
  match Field.ofName? name with
  | some field =>
    if fields.contains field then .error (.repeated field)
    else fields.readField field (← ofJson (Json.readColon s))
  | none =>
    let s ← ofJson (Json.readColon s)
    .ok (fields, ← ofJson (Json.skip s))

/-- Reads the members of an object that is not empty, from behind the first quote on, and the
closing brace. -/
def readMembers (fuel : Nat) (fields : Fields) (s : List Char) :
    Except Fault (Fields × List Char) :=
  match fuel with
  | 0 => .error (.malformed .endInObject)
  | fuel + 1 => do
    let (fields, s) ← fields.readMember s
    match ← ofJson (Json.readDelimiter '\x7d' .endInObject .expectedCommaOrBrace s) with
    | (.close, s) => .ok (fields, s)
    | (.comma, s) => readMembers fuel fields (← ofJson (Json.readNextQuote s))

end Fields

/-- Reads an object after its opening brace. -/
def readObject (s : List Char) : Except Fault (Fields × List Char) :=
  match Json.closed? '\x7d' s with
  | some rest => .ok ({}, rest)
  | none => do Fields.readMembers (s.length + 1) {} (← ofJson (Json.readQuote s))

/-- Reads the closing bracket of an array that has both fields. -/
def readArrayEnd (s : List Char) : Except Json.Fault (List Char) :=
  match Json.skipBlanks s with
  | [] => .error .endInList
  | c :: s =>
    if c = ']' then .ok s
    else if c = ',' ∧ (Json.closed? ']' s).isSome then .error .trailingComma
    else .error .trailingText

/-- Reads an array after its opening bracket. -/
def readArray (s : List Char) : Except Fault (Fields × List Char) :=
  match Json.closed? ']' s with
  | some rest => .ok ({}, rest)
  | none => do
    let (path, s) ← readPath (← ofJson (Json.readItemStart s))
    match ← ofJson (Json.readDelimiter ']' .endInList .expectedCommaOrBracket s) with
    | (.close, s) => .ok ({ basePath := some path }, s)
    | (.comma, s) =>
      let (b, s) ← readBoolean (← ofJson (Json.readNextItemStart s))
      .ok ({ basePath := some path, normalizeWhitespace := some b }, ← ofJson (readArrayEnd s))

/-- Reads the fields of settings, if they are an object or an array. -/
def readFields (s : List Char) : Except Fault (Fields × List Char) :=
  match Json.skipBlanks s with
  | '\x7b' :: s => readObject s
  | '[' :: s => readArray s
  | s => refuse .settings s

/-- Reads a text that is settings. -/
def read (s : List Char) : Except Failure Settings :=
  (do
    let (fields, rest) ← readFields s
    ofJson (Json.readEnd rest)
    .ok fields.settings : Except Fault Settings).mapError fun fault => .badSettings fault.message

end ConditionalTemplate.Settings
