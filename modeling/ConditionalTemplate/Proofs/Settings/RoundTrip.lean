import ConditionalTemplate.Proofs.Json.Skipping
import ConditionalTemplate.Settings.Reader
import ConditionalTemplate.Settings.Writer

/-!
# Reading written settings

`IsObjectOf c fields s`: the text `s` is a JSON object that has the given fields of the settings
`c`, each once and in this order, and any other members among them, with blanks between the tokens.
Such a text is read as the settings `c` with the other fields at their defaults
(`read_of_isObjectOf`); what is written of settings is one that has both fields
(`isObjectOf_write`).
-/

namespace ConditionalTemplate.Settings

open Json (IsGap IsValue Spells EndsValue)

variable {c : Settings} {fields : List Field} {field? : Option Field} {s t rest : List Char}

/-- The settings with all but the given fields at their defaults. -/
def keeping (c : Settings) (fields : List Field) : Settings where
  basePath := if .basePath ∈ fields then c.basePath else ({} : Settings).basePath
  normalizeWhitespace :=
    if .normalizeWhitespace ∈ fields then c.normalizeWhitespace
    else ({} : Settings).normalizeWhitespace

/-- The text of the value of a field. -/
inductive IsValueOf (c : Settings) : Field → List Char → Prop where
  | basePath {path : List Char} (h : Spells path c.basePath.toList) :
    IsValueOf c .basePath ('"' :: path ++ ['"'])
  | normalizeWhitespace :
    IsValueOf c .normalizeWhitespace (Value.boolText c.normalizeWhitespace)

/-- The text of a member: one of the fields, or a member of any other name with any value. -/
inductive IsMemberOf (c : Settings) : Option Field → List Char → Prop where
  | field {field : Field} {name colon gap value : List Char}
    (hname : Spells name field.name.toList) (hcolon : IsGap colon) (hgap : IsGap gap)
    (hvalue : IsValueOf c field value) :
    IsMemberOf c (some field) ('"' :: name ++ '"' :: colon ++ ':' :: gap ++ value)
  | other {word name colon gap value : List Char}
    (hword : ∀ field : Field, field.name.toList ≠ word)
    (hname : Spells name word) (hcolon : IsGap colon) (hgap : IsGap gap) (hvalue : IsValue value) :
    IsMemberOf c none ('"' :: name ++ '"' :: colon ++ ':' :: gap ++ value)

/-- The text of members with commas between them; no field is there twice. -/
inductive AreMembersOf (c : Settings) : List Field → List Char → Prop where
  | last {field? : Option Field} {before member after : List Char} (hbefore : IsGap before)
    (hmember : IsMemberOf c field? member) (hafter : IsGap after) :
    AreMembersOf c field?.toList (before ++ member ++ after)
  | cons {field? : Option Field} {fields : List Field} {before member after s : List Char}
    (hbefore : IsGap before) (hmember : IsMemberOf c field? member) (hafter : IsGap after)
    (hs : AreMembersOf c fields s) (hnew : ∀ field ∈ field?, field ∉ fields) :
    AreMembersOf c (field?.toList ++ fields) (before ++ member ++ after ++ ',' :: s)

/-- The text of an object with these fields of the settings. -/
inductive IsObjectOf (c : Settings) : List Field → List Char → Prop where
  | empty {gap : List Char} (h : IsGap gap) : IsObjectOf c [] ('\x7b' :: gap ++ ['\x7d'])
  | members {fields : List Field} {s : List Char} (h : AreMembersOf c fields s) :
    IsObjectOf c fields ('\x7b' :: s ++ ['\x7d'])

/-! ### Fields -/

theorem ofName?_name (field : Field) : Field.ofName? field.name.toList = some field := by
  cases field <;> decide

theorem ofName?_of_ne {word : List Char} (h : ∀ field : Field, field.name.toList ≠ word) :
    Field.ofName? word = none := by
  simp [Field.ofName?, h]

namespace Fields

/-- The fields read so far and these fields of the settings. -/
def adding (r : Fields) (c : Settings) (fields : List Field) : Fields where
  basePath := if .basePath ∈ fields then some c.basePath else r.basePath
  normalizeWhitespace :=
    if .normalizeWhitespace ∈ fields then some c.normalizeWhitespace else r.normalizeWhitespace

theorem adding_append (r : Fields) (fields fields' : List Field) :
    (r.adding c fields).adding c fields' = r.adding c (fields ++ fields') := by
  simp only [adding, List.mem_append]
  congr 1 <;> split_ifs <;> simp_all

theorem contains_adding (r : Fields) (field : Field) :
    (r.adding c fields).contains field = (decide (field ∈ fields) || r.contains field) := by
  cases field <;> simp only [adding, contains] <;> split_ifs <;> simp_all

theorem settings_adding (c : Settings) (fields : List Field) :
    (({} : Fields).adding c fields).settings = c.keeping fields := by
  simp only [settings, adding, keeping]
  congr 1 <;> split_ifs <;> rfl

/-! ### Members -/

theorem readPath_eq {gap path word : List Char} (hgap : IsGap gap) (h : Spells path word)
    (rest : List Char) :
    readPath (gap ++ '"' :: (path ++ '"' :: rest)) = .ok (String.ofList word, rest) := by
  rw [readPath, Json.skipBlanks_gap_cons hgap (by decide)]
  simp only [h.readString_eq]
  rfl

theorem readBoolean_eq {gap : List Char} (hgap : IsGap gap) (b : Bool) (rest : List Char) :
    readBoolean (gap ++ (Value.boolText b ++ rest)) = .ok (b, rest) := by
  rw [readBoolean]
  cases b with
  | true =>
    have hskip : Json.skipBlanks (gap ++ (Value.boolText true ++ rest)) =
        't' :: (['r', 'u', 'e'] ++ rest) := Json.skipBlanks_gap_cons hgap (by decide) _
    rw [hskip]
    exact congrArg (fun x => ofJson (x.map fun rest => (true, rest))) (Json.readWord_append _ rest)
  | false =>
    have hskip : Json.skipBlanks (gap ++ (Value.boolText false ++ rest)) =
        'f' :: (['a', 'l', 's', 'e'] ++ rest) := Json.skipBlanks_gap_cons hgap (by decide) _
    rw [hskip]
    exact congrArg (fun x => ofJson (x.map fun rest => (false, rest))) (Json.readWord_append _ rest)

/-- The value of a field is read as what the settings have there. -/
theorem readField_eq {field : Field} {gap value : List Char} (h : IsValueOf c field value)
    (hgap : IsGap gap) (r : Fields) (rest : List Char) :
    r.readField field (gap ++ (value ++ rest)) = .ok (r.adding c [field], rest) := by
  cases h with
  | basePath h =>
    simp only [List.cons_append, List.append_assoc, List.nil_append]
    rw [readField, readPath_eq hgap h]
    simp [Except.map, adding, String.ofList_toList]
  | normalizeWhitespace =>
    rw [readField, readBoolean_eq hgap]
    simp [Except.map, adding]

/-- A member adds its field, if it has one, to those that are read. -/
theorem readMember_eq (h : IsMemberOf c field? s) (r : Fields)
    (hnew : ∀ field ∈ field?, r.contains field = false) (hrest : EndsValue rest) :
    ∃ t, s ++ rest = '"' :: t ∧ r.readMember t = .ok (r.adding c field?.toList, rest) := by
  cases h with
  | @field field name colon gap value hname hcolon hgap hvalue =>
    simp only [List.cons_append, List.append_assoc]
    refine ⟨_, rfl, ?_⟩
    simp only [readMember, hname.readString_eq, ofName?_name, hnew field rfl,
      Json.readColon_gap hcolon, readField_eq hvalue hgap, ofJson, Except.mapError, bind,
      Except.bind]
    rfl
  | @other word name colon gap value hword hname hcolon hgap hvalue =>
    simp only [List.cons_append, List.append_assoc]
    refine ⟨_, rfl, ?_⟩
    have hskip : Json.skip (gap ++ (value ++ rest)) = .ok rest := by
      rw [Json.skip, Json.skipValue_gap hgap]
      exact hvalue.skipValue_eq (by simp [Json.enoughFuel]; omega) hrest
    simp only [readMember, hname.readString_eq, ofName?_of_ne hword,
      Json.readColon_gap hcolon, hskip, ofJson, Except.mapError, bind, Except.bind]
    rfl

/-- Members add their fields to those that are read. -/
theorem readMembers_eq (h : AreMembersOf c fields s) {r : Fields} {fuel : Nat}
    (hnew : ∀ field ∈ fields, r.contains field = false) (hfuel : s.length < fuel)
    (rest : List Char) :
    ∃ t, Json.skipBlanks (s ++ '\x7d' :: rest) = '"' :: t ∧
      readMembers fuel r t = .ok (r.adding c fields, rest) := by
  induction h generalizing r fuel with
  | @last field? before member after hbefore hmember hafter =>
    obtain ⟨fuel, rfl⟩ := Nat.exists_eq_succ_of_ne_zero (Nat.ne_zero_of_lt hfuel)
    have hend := Json.endsValue_gap hafter (Json.endsValue_cons (c := '\x7d') (by decide) rest)
    obtain ⟨t, ht, hread⟩ := readMember_eq hmember r
      (fun field hfield => hnew field (Option.mem_toList.mpr hfield)) hend
    refine ⟨t, ?_, ?_⟩
    · simp only [List.append_assoc]
      rw [Json.skipBlanks_append hbefore, ht, Json.skipBlanks_cons (by decide)]
    · simp only [readMembers, hread, Json.readDelimiter_close '\x7d' (by decide) hafter, ofJson,
        Except.mapError, bind, Except.bind]
  | @cons field? fields before member after s hbefore hmember hafter _ hfield ih =>
    obtain ⟨fuel, rfl⟩ := Nat.exists_eq_succ_of_ne_zero (Nat.ne_zero_of_lt hfuel)
    simp only [List.length_append, List.length_cons] at hfuel
    have hend := Json.endsValue_gap hafter
      (Json.endsValue_cons (c := ',') (by decide) (s ++ '\x7d' :: rest))
    obtain ⟨t, ht, hread⟩ := readMember_eq hmember r
      (fun field hmem => hnew field (List.mem_append_left _ (Option.mem_toList.mpr hmem))) hend
    -- the fields of the members behind this one are still to be read
    have hnew' : ∀ field ∈ fields, (r.adding c field?.toList).contains field = false := by
      intro field hmem
      have hother : field ∉ field?.toList := fun h => hfield field (Option.mem_toList.mp h) hmem
      rw [contains_adding, hnew field (List.mem_append_right _ hmem), decide_eq_false hother]
      rfl
    have hlength : s.length < fuel := by omega
    obtain ⟨t', ht', hrest⟩ := ih hnew' hlength
    refine ⟨t, ?_, ?_⟩
    · simp only [List.append_assoc, List.cons_append]
      rw [Json.skipBlanks_append hbefore, ht, Json.skipBlanks_cons (by decide)]
    · simp only [readMembers, hread, Json.readDelimiter_comma hafter, Json.readNextQuote_eq ht',
        hrest, adding_append, ofJson, Except.mapError, bind, Except.bind]

end Fields

/-! ### Objects -/

theorem readFields_eq (h : IsObjectOf c fields s) (rest : List Char) :
    readFields (s ++ rest) = .ok (({} : Fields).adding c fields, rest) := by
  cases h with
  | @empty gap hgap =>
    have hclosed := Json.closed?_gap '\x7d' (by decide) hgap rest
    have hskip : Json.skipBlanks ('\x7b' :: (gap ++ '\x7d' :: rest)) =
        '\x7b' :: (gap ++ '\x7d' :: rest) := Json.skipBlanks_cons (by decide) _
    simp only [List.cons_append, List.append_assoc, List.nil_append]
    rw [readFields, hskip]
    simp only [readObject, hclosed]
    rfl
  | @members fields s h =>
    have hlength : s.length < (s ++ '\x7d' :: rest).length + 1 := by
      rw [List.length_append]
      omega
    obtain ⟨t, hfirst, hread⟩ := Fields.readMembers_eq h (r := {})
      (fun field _ => by cases field <;> rfl) hlength rest
    have hclosed := Json.closed?_eq_none hfirst (by decide : '"' ≠ '\x7d')
    have hquote := Json.readQuote_eq hfirst
    have hskip : Json.skipBlanks ('\x7b' :: (s ++ '\x7d' :: rest)) =
        '\x7b' :: (s ++ '\x7d' :: rest) := Json.skipBlanks_cons (by decide) _
    simp only [List.cons_append, List.append_assoc, List.nil_append]
    rw [readFields, hskip]
    simp only [readObject, hclosed, hquote, hread, ofJson, Except.mapError, bind, Except.bind]

/-- An object with some fields of the settings and with any other members is read as the settings
with their other fields at the defaults. -/
theorem read_of_isObjectOf {before after : List Char} (h : IsObjectOf c fields s)
    (hbefore : IsGap before) (hafter : IsGap after) :
    read (before ++ s ++ after) = .ok (c.keeping fields) := by
  have hgap (u : List Char) : readFields (before ++ u) = readFields u := by
    rw [readFields, readFields, Json.skipBlanks_append hbefore]
  have hend : Json.readEnd after = .ok () := by
    have hskip := Json.skipBlanks_append hafter []
    rw [List.append_nil] at hskip
    rw [Json.readEnd, hskip]
    rfl
  rw [read, List.append_assoc, hgap, readFields_eq h]
  simp only [hend, Fields.settings_adding, ofJson, Except.mapError, bind, Except.bind]

/-- What is written of settings has both fields. -/
theorem isObjectOf_write (c : Settings) :
    IsObjectOf c [.basePath, .normalizeWhitespace] c.write := by
  have hgap : IsGap [] := nofun
  have hpath := IsMemberOf.field (Json.spells_writeString Field.basePath.name.toList) hgap hgap
    (.basePath (c := c) (Json.spells_writeString c.basePath.toList))
  have hnormalize := IsMemberOf.field
    (Json.spells_writeString Field.normalizeWhitespace.name.toList) hgap hgap
    (.normalizeWhitespace (c := c))
  have hobject := IsObjectOf.members
    (.cons hgap hpath hgap (.last hgap hnormalize hgap) (by decide))
  simpa [write, writeMember, Json.writeString] using hobject

theorem keeping_all (c : Settings) : c.keeping [.basePath, .normalizeWhitespace] = c := rfl

/-- Settings are read back from what is written of them, and from every object that has both their
fields, in whatever order and spelling and with whatever other members; a field that is left out is
read as its default. -/
theorem read_written (c : Settings) :
    read c.write = .ok c ∧
    ∀ {fields : List Field} {s before after : List Char}, IsObjectOf c fields s →
      IsGap before → IsGap after → read (before ++ s ++ after) = .ok (c.keeping fields) := by
  refine ⟨?_, fun h hbefore hafter => read_of_isObjectOf h hbefore hafter⟩
  have hgap : IsGap [] := nofun
  have hread := read_of_isObjectOf (isObjectOf_write c) hgap hgap
  rwa [keeping_all, List.nil_append, List.append_nil] at hread

/-- The path is left out; a member of another name has a number out of range and half a surrogate
pair. -/
theorem read_written_partial :
    read "\x7b\"base_path\":\"\\\"\\\\\\n𝄞\",\"normalize_whitespace\":false\x7d".toList =
        .ok { basePath := "\"\\\n𝄞", normalizeWhitespace := false } ∧
      read
          " \x7b\"n\":[1e999,\x7b\"\\ud800\":null\x7d] ,\"normalize_whitespace\":false\x7d".toList =
        .ok { basePath := ".", normalizeWhitespace := false } := by
  let c : Settings := { basePath := "\"\\\n𝄞", normalizeWhitespace := false }
  have hgap : IsGap [] := nofun
  have hblank : IsGap [' '] := List.forall_mem_singleton.mpr rfl
  have hnumber : Json.Literal.Spelled ⟨['1'], none, some 999⟩ ['1', 'e', '9', '9', '9'] :=
    .mk ⟨by decide, by decide, by decide⟩ .absent
      (.present (.inl rfl) (.plain (s := ['9', '9', '9']) (by decide) (by decide)))
  have hinner : Json.IsMembers _ :=
    .last hgap (.code (a := 'd') (b := '8') (c := '0') (d := '0') rfl .nil) hgap hgap .null hgap
  have hlist : IsValue _ :=
    .array (.cons hgap (.number false hnumber) hgap (.last hgap (.object hinner) hgap))
  have hword : ∀ field : Field, field.name.toList ≠ ['n'] := by
    rintro (_ | _) <;> decide
  have hother : IsMemberOf c none _ :=
    .other hword (.plain (by decide) (by decide) (by decide) .nil) hgap hgap hlist
  have hfield : IsMemberOf c (some .normalizeWhitespace) _ :=
    .field (Json.spells_writeString _) hgap hgap .normalizeWhitespace
  have hobject := IsObjectOf.members
    (.cons hgap hother hblank (.last hgap hfield hgap) (by decide))
  have hwritten : c.write =
      "\x7b\"base_path\":\"\\\"\\\\\\n𝄞\",\"normalize_whitespace\":false\x7d".toList := by
    cbv
  have hread := (read_written c).2 hobject hblank hgap
  refine ⟨hwritten ▸ (read_written c).1, Eq.trans (congrArg read ?_) hread⟩
  decide

end ConditionalTemplate.Settings
