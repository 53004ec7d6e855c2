import ConditionalTemplate.Json.Fault
import ConditionalTemplate.Text.Width

/-!
# JSON strings

Reading and writing the characters between the quotes. `readString` decodes escapes and requires
surrogates to come in pairs; `skipString` only finds the end. `writeString` is the compact form:
what must be escaped is, with a short escape where there is one.
-/

namespace ConditionalTemplate.Json

def hexDigit? (c : Char) : Option Nat :=
  if c.isDigit then some (c.toNat - 48)
  else if 'a' ≤ c ∧ c ≤ 'f' then some (c.toNat - 87)
  else if 'A' ≤ c ∧ c ≤ 'F' then some (c.toNat - 55)
  else none

/-- The number of four hexadecimal digits. -/
def hexNumber? (a b c d : Char) : Option Nat := do
  some ((((← hexDigit? a) * 16 + (← hexDigit? b)) * 16 + (← hexDigit? c)) * 16 + (← hexDigit? d))

/-- Reads four hexadecimal digits. Where four bytes are left they are no number, where fewer are
left the text ends in the string. -/
def readHex (s : List Char) : Except Fault (Nat × List Char) :=
  match s with
  | a :: b :: c :: d :: rest =>
    match hexNumber? a b c d with
    | some n => .ok (n, rest)
    | none => .error .invalidEscape
  | s => .error (if 4 ≤ Text.width s then .invalidEscape else .endInString)

/-- The character of an escape of one letter. -/
def shortEscape? : Char → Option Char
  | '"' => some '"'
  | '\\' => some '\\'
  | '/' => some '/'
  | 'b' => some '\x08'
  | 'f' => some '\x0c'
  | 'n' => some '\n'
  | 'r' => some '\x0d'
  | 't' => some '\t'
  | _ => none

/-- Reads the second half of a surrogate pair after the unit `high`. -/
def readLowSurrogate (high : Nat) : List Char → Except Fault (Char × List Char)
  | [] => .error .endInString
  | ['\\'] => .error .endInString
  | '\\' :: 'u' :: s => do
    let (low, rest) ← readHex s
    if 0xDC00 ≤ low ∧ low ≤ 0xDFFF then
      .ok (Char.ofNat ((high - 0xD800) * 0x400 + (low - 0xDC00) + 0x10000), rest)
    else .error .loneSurrogate
  | _ => .error .unfinishedSurrogatePair

/-- Reads the rest of an escape after its backslash. -/
def readEscape : List Char → Except Fault (Char × List Char)
  | [] => .error .endInString
  | c :: s =>
    match shortEscape? c with
    | some e => .ok (e, s)
    | none =>
      if c = 'u' then do
        let (n, rest) ← readHex s
        if 0xDC00 ≤ n ∧ n ≤ 0xDFFF then .error .loneSurrogate
        else if 0xD800 ≤ n ∧ n ≤ 0xDBFF then readLowSurrogate n rest
        else .ok (Char.ofNat n, rest)
      else .error .invalidEscape

theorem length_le_of_readHex {s rest : List Char} {n : Nat} (h : readHex s = .ok (n, rest)) :
    rest.length ≤ s.length := by
  unfold readHex at h
  split at h
  · split at h
    · simp only [Except.ok.injEq, Prod.mk.injEq] at h
      simp [← h.2]
      omega
    · cases h
  · cases h

theorem length_le_of_readLowSurrogate {high : Nat} {s rest : List Char} {c : Char}
    (h : readLowSurrogate high s = .ok (c, rest)) : rest.length ≤ s.length := by
  unfold readLowSurrogate at h
  split at h
  · cases h
  · cases h
  · next s =>
    cases hx : readHex s with
    | error e => rw [hx] at h; cases h
    | ok p =>
      obtain ⟨low, r⟩ := p
      simp only [hx, bind, Except.bind] at h
      have := length_le_of_readHex hx
      split at h
      · simp only [Except.ok.injEq, Prod.mk.injEq] at h
        simp [← h.2]
        omega
      · cases h
  · cases h

theorem length_lt_of_readEscape {s rest : List Char} {c : Char}
    (h : readEscape s = .ok (c, rest)) : rest.length < s.length := by
  unfold readEscape at h
  split at h
  · cases h
  · next d s =>
    split at h
    · simp only [Except.ok.injEq, Prod.mk.injEq] at h
      simp [← h.2]
    · split at h
      · cases hx : readHex s with
        | error e => rw [hx] at h; cases h
        | ok p =>
          obtain ⟨n, r⟩ := p
          simp only [hx, bind, Except.bind] at h
          have := length_le_of_readHex hx
          split at h
          · cases h
          · split at h
            · have := length_le_of_readLowSurrogate h
              simp
              omega
            · simp only [Except.ok.injEq, Prod.mk.injEq] at h
              simp [← h.2]
              omega
      · cases h

/-- Reads a string after its opening quote, up to and with the closing one. -/
def readString : List Char → Except Fault (List Char × List Char)
  | [] => .error .endInString
  | c :: s =>
    if c = '"' then .ok ([], s)
    else if c = '\\' then
      match h : readEscape s with
      | .error e => .error e
      | .ok (e, rest) =>
        have := length_lt_of_readEscape h
        (readString rest).map fun (t, rest) => (e :: t, rest)
    else if c.toNat < 0x20 then .error .controlCharacter
    else (readString s).map fun (t, rest) => (c :: t, rest)
termination_by s => s.length
decreasing_by all_goals simp_wf; try omega

/-- Passes over the rest of an escape after its backslash; any four digits will do. -/
def skipEscape : List Char → Except Fault (List Char)
  | [] => .error .endInString
  | c :: s =>
    if (shortEscape? c).isSome then .ok s
    else if c = 'u' then (readHex s).map (·.2)
    else .error .invalidEscape

theorem length_lt_of_skipEscape {s rest : List Char} (h : skipEscape s = .ok rest) :
    rest.length < s.length := by
  unfold skipEscape at h
  split at h
  · cases h
  · next c s =>
    split at h
    · simp only [Except.ok.injEq] at h
      simp [h]
    · split at h
      · cases hx : readHex s with
        | error e => rw [hx] at h; cases h
        | ok p =>
          obtain ⟨n, r⟩ := p
          have := length_le_of_readHex hx
          simp only [hx, Except.map, Except.ok.injEq] at h
          simp [← h]
          omega
      · cases h

/-- Passes over a string after its opening quote, up to and with the closing one. -/
def skipString : List Char → Except Fault (List Char)
  | [] => .error .endInString
  | c :: s =>
    if c = '"' then .ok s
    else if c = '\\' then
      match h : skipEscape s with
      | .error e => .error e
      | .ok rest =>
        have := length_lt_of_skipEscape h
        skipString rest
    else if c.toNat < 0x20 then .error .controlCharacter
    else skipString s
termination_by s => s.length
decreasing_by all_goals simp_wf; try omega

/-- The letter of a short escape that is written for a character. -/
def shortEscapeOf? (c : Char) : Option Char :=
  if c = '"' then some '"'
  else if c = '\\' then some '\\'
  else if c = '\x08' then some 'b'
  else if c = '\x0c' then some 'f'
  else if c = '\n' then some 'n'
  else if c = '\x0d' then some 'r'
  else if c = '\t' then some 't'
  else none

/-- How a character stands in a string. -/
def writeChar (c : Char) : List Char :=
  match shortEscapeOf? c with
  | some e => ['\\', e]
  | none =>
    if c.toNat < 0x20 then
      ['\\', 'u', '0', '0', Nat.digitChar (c.toNat / 16), Nat.digitChar (c.toNat % 16)]
    else [c]

/-- A string with its quotes. -/
def writeString (s : List Char) : List Char :=
  '"' :: s.flatMap writeChar ++ ['"']

end ConditionalTemplate.Json
