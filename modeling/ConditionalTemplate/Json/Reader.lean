import ConditionalTemplate.Json.NumberLiteral
import ConditionalTemplate.Json.StringLiteral

/-!
# Reading JSON

`read` turns a text into a tree. `skip` passes over a value of any kind without looking into it:
there lone surrogates and numbers of any size will do.
-/

namespace ConditionalTemplate.Json

/-- The blanks between the tokens of JSON. -/
def isBlank (c : Char) : Bool :=
  c == ' ' || c == '\t' || c == '\n' || c == '\x0d'

def skipBlanks (s : List Char) : List Char :=
  s.dropWhile isBlank

/-- Reads the given rest of a word. -/
def readWord : (word s : List Char) → Except Fault (List Char)
  | [], s => .ok s
  | _ :: _, [] => .error .endInValue
  | w :: word, c :: s => if c = w then readWord word s else .error .expectedIdentifier

def readNull (s : List Char) : Except Fault (List Char) :=
  readWord ['u', 'l', 'l'] s

def readTrue (s : List Char) : Except Fault (List Char) :=
  readWord ['r', 'u', 'e'] s

def readFalse (s : List Char) : Except Fault (List Char) :=
  readWord ['a', 'l', 's', 'e'] s

/-- Reads the colon after the name of a member. -/
def readColon (s : List Char) : Except Fault (List Char) :=
  match skipBlanks s with
  | [] => .error .endInObject
  | c :: s => if c = ':' then .ok s else .error .expectedColon

/-- Reads the opening quote of the first name of an object. -/
def readQuote (s : List Char) : Except Fault (List Char) :=
  match skipBlanks s with
  | [] => .error .endInObject
  | c :: s => if c = '"' then .ok s else .error .nameNotString

/-- Reads the opening quote of the name after a comma. -/
def readNextQuote (s : List Char) : Except Fault (List Char) :=
  match skipBlanks s with
  | [] => .error .endInValue
  | c :: s =>
    if c = '"' then .ok s
    else if c = '\x7d' then .error .trailingComma
    else .error .nameNotString

/-- Goes to the first item of an array. -/
def readItemStart (s : List Char) : Except Fault (List Char) :=
  match skipBlanks s with
  | [] => .error .endInList
  | c :: s => .ok (c :: s)

/-- Goes to the item after a comma. -/
def readNextItemStart (s : List Char) : Except Fault (List Char) :=
  match skipBlanks s with
  | [] => .error .endInValue
  | c :: s => if c = ']' then .error .trailingComma else .ok (c :: s)

/-- What follows an element of an array or a member of an object: a comma, or the closing
character. -/
inductive Delimiter where
  | comma
  | close

/-- Reads a comma or the closing character. -/
def readDelimiter (close : Char) (early other : Fault) (s : List Char) :
    Except Fault (Delimiter × List Char) :=
  match skipBlanks s with
  | [] => .error early
  | c :: s =>
    if c = ',' then .ok (.comma, s)
    else if c = close then .ok (.close, s)
    else .error other

/-- The text after the closing character, if that is what comes next. -/
def closed? (close : Char) (s : List Char) : Option (List Char) :=
  match skipBlanks s with
  | [] => none
  | c :: s => if c = close then some s else none

mutual

/-- Reads a value; `fuel` bounds the calls that read its parts. -/
def readValue (fuel : Nat) (s : List Char) : Except Fault (Json × List Char) :=
  match fuel with
  | 0 => .error .endInValue
  | fuel + 1 =>
    match skipBlanks s with
    | [] => .error .endInValue
    | c :: s =>
      if c = 'n' then (readNull s).map fun rest => (.null, rest)
      else if c = 't' then (readTrue s).map fun rest => (.bool true, rest)
      else if c = 'f' then (readFalse s).map fun rest => (.bool false, rest)
      else if c = '-' then (readNumber true s).map fun (n, rest) => (.number n, rest)
      else if c.isDigit then (readNumber false (c :: s)).map fun (n, rest) => (.number n, rest)
      else if c = '"' then (readString s).map fun (t, rest) => (.string (String.ofList t), rest)
      else if c = '[' then
        match closed? ']' s with
        | some rest => .ok (.array [], rest)
        | none => do
          let (items, rest) ← readItems fuel (← readItemStart s)
          .ok (.array items, rest)
      else if c = '\x7b' then
        match closed? '\x7d' s with
        | some rest => .ok (.object [], rest)
        | none => do
          let (members, rest) ← readMembers fuel (← readQuote s)
          .ok (.object members, rest)
      else .error .expectedValue

/-- Reads the items of an array that is not empty, and the closing bracket. -/
def readItems (fuel : Nat) (s : List Char) : Except Fault (List Json × List Char) :=
  match fuel with
  | 0 => .error .endInList
  | fuel + 1 => do
    let (item, s) ← readValue fuel s
    match ← readDelimiter ']' .endInList .expectedCommaOrBracket s with
    | (.close, s) => .ok ([item], s)
    | (.comma, s) =>
      let (items, s) ← readItems fuel (← readNextItemStart s)
      .ok (item :: items, s)

/-- Reads the members of an object that is not empty, from behind the first quote on, and the
closing brace. -/
def readMembers (fuel : Nat) (s : List Char) : Except Fault (List (String × Json) × List Char) :=
  match fuel with
  | 0 => .error .endInObject
  | fuel + 1 => do
    let (name, s) ← readString s
    let (value, s) ← readValue fuel (← readColon s)
    match ← readDelimiter '\x7d' .endInObject .expectedCommaOrBrace s with
    | (.close, s) => .ok ([(String.ofList name, value)], s)
    | (.comma, s) =>
      let (members, s) ← readMembers fuel (← readNextQuote s)
      .ok ((String.ofList name, value) :: members, s)

end

/-- Calls enough for any text: each character opens at most one array or object, and that takes two
calls. -/
def enoughFuel (s : List Char) : Nat :=
  2 * s.length + 2

/-- Refuses anything but blanks. -/
def readEnd (s : List Char) : Except Fault Unit :=
  if skipBlanks s = [] then .ok () else .error .trailingText

/-- Reads a text that is one value. -/
def read (s : List Char) : Except Fault Json := do
  let (value, rest) ← readValue (enoughFuel s) s
  readEnd rest
  .ok value

mutual

/-- Passes over a value; `fuel` bounds the calls that pass over its parts. -/
def skipValue (fuel : Nat) (s : List Char) : Except Fault (List Char) :=
  match fuel with
  | 0 => .error .endInValue
  | fuel + 1 =>
    match skipBlanks s with
    | [] => .error .endInValue
    | c :: s =>
      if c = 'n' then readNull s
      else if c = 't' then readTrue s
      else if c = 'f' then readFalse s
      else if c = '-' then skipNumber s
      else if c.isDigit then skipNumber (c :: s)
      else if c = '"' then skipString s
      else if c = '[' then
        match closed? ']' s with
        | some rest => .ok rest
        | none => do skipItems fuel (← readItemStart s)
      else if c = '\x7b' then
        match closed? '\x7d' s with
        | some rest => .ok rest
        | none => skipMembers fuel s
      else .error .expectedValue

/-- Passes over the items of an array that is not empty, and the closing bracket. -/
def skipItems (fuel : Nat) (s : List Char) : Except Fault (List Char) :=
  match fuel with
  | 0 => .error .endInList
  | fuel + 1 => do
    let s ← skipValue fuel s
    match ← readDelimiter ']' .endInList .expectedCommaOrBracket s with
    | (.close, s) => .ok s
    | (.comma, s) => skipItems fuel s

/-- Passes over the members of an object that is not empty, and the closing brace. -/
def skipMembers (fuel : Nat) (s : List Char) : Except Fault (List Char) :=
  match fuel with
  | 0 => .error .endInObject
  | fuel + 1 => do
    let s ← skipString (← readQuote s)
    let s ← skipValue fuel (← readColon s)
    match ← readDelimiter '\x7d' .endInObject .expectedCommaOrBrace s with
    | (.close, s) => .ok s
    | (.comma, s) => skipMembers fuel s

end

/-- Passes over a value at the front of a text. -/
def skip (s : List Char) : Except Fault (List Char) :=
  skipValue (enoughFuel s) s

end ConditionalTemplate.Json
