import ConditionalTemplate.Proofs.Json.Member
import Mathlib.Data.List.DropRight

/-!
# The grammar of JSON values

`IsValue s`: the text `s` is a JSON value, with blanks between its tokens. Numbers may be of any
size, and escapes of four digits may be lone surrogates. The reader that passes over values takes
such a text as a whole, whatever follows it that does not continue a number
(`IsValue.skipValue_eq`).
-/

namespace ConditionalTemplate.Json

/-- Blanks, or nothing. -/
def IsGap (s : List Char) : Prop :=
  ∀ c ∈ s, isBlank c = true

/-- What may stand between the quotes of a string. -/
inductive IsStringBody : List Char → Prop where
  | nil : IsStringBody []
  | plain {c : Char} {s : List Char} (hquote : c ≠ '"') (hslash : c ≠ '\\')
    (hcontrol : 0x20 ≤ c.toNat) (hs : IsStringBody s) : IsStringBody (c :: s)
  | letter {c : Char} {s : List Char} (hc : (shortEscape? c).isSome = true)
    (hs : IsStringBody s) : IsStringBody ('\\' :: c :: s)
  | code {a b c d : Char} {s : List Char} (hcode : (hexNumber? a b c d).isSome = true)
    (hs : IsStringBody s) : IsStringBody ('\\' :: 'u' :: a :: b :: c :: d :: s)

mutual

inductive IsValue : List Char → Prop where
  | null : IsValue ['n', 'u', 'l', 'l']
  | true : IsValue ['t', 'r', 'u', 'e']
  | false : IsValue ['f', 'a', 'l', 's', 'e']
  | number {l : Literal} {s : List Char} (negative : Bool) (h : l.Spelled s) :
    IsValue ((if negative then ['-'] else []) ++ s)
  | string {s : List Char} (h : IsStringBody s) : IsValue ('"' :: s ++ ['"'])
  | emptyArray {gap : List Char} (h : IsGap gap) : IsValue ('[' :: gap ++ [']'])
  | array {s : List Char} (h : IsItems s) : IsValue ('[' :: s ++ [']'])
  | emptyObject {gap : List Char} (h : IsGap gap) : IsValue ('\x7b' :: gap ++ ['\x7d'])
  | object {s : List Char} (h : IsMembers s) : IsValue ('\x7b' :: s ++ ['\x7d'])

/-- Items with commas between them. -/
inductive IsItems : List Char → Prop where
  | last {before item after : List Char} (hbefore : IsGap before) (hitem : IsValue item)
    (hafter : IsGap after) : IsItems (before ++ item ++ after)
  | cons {before item after s : List Char} (hbefore : IsGap before) (hitem : IsValue item)
    (hafter : IsGap after) (hs : IsItems s) : IsItems (before ++ item ++ after ++ ',' :: s)

/-- Members with commas between them. -/
inductive IsMembers : List Char → Prop where
  | last {before name colon gap value after : List Char} (hbefore : IsGap before)
    (hname : IsStringBody name) (hcolon : IsGap colon) (hgap : IsGap gap) (hvalue : IsValue value)
    (hafter : IsGap after) :
    IsMembers (before ++ '"' :: name ++ '"' :: colon ++ ':' :: gap ++ value ++ after)
  | cons {before name colon gap value after s : List Char} (hbefore : IsGap before)
    (hname : IsStringBody name) (hcolon : IsGap colon) (hgap : IsGap gap) (hvalue : IsValue value)
    (hafter : IsGap after) (hs : IsMembers s) :
    IsMembers (before ++ '"' :: name ++ '"' :: colon ++ ':' :: gap ++ value ++ after ++ ',' :: s)

end

variable {s t gap rest : List Char} {c close : Char} {fuel : Nat}

/-! ### Tokens -/

theorem skipBlanks_append (h : IsGap gap) (s : List Char) :
    skipBlanks (gap ++ s) = skipBlanks s :=
  List.dropWhile_append_of_pos h

theorem skipBlanks_cons (h : isBlank c = false) (s : List Char) : skipBlanks (c :: s) = c :: s :=
  List.dropWhile_cons_of_neg (by rw [h]; decide)

theorem skipBlanks_gap_cons (hgap : IsGap gap) (h : isBlank c = false) (s : List Char) :
    skipBlanks (gap ++ c :: s) = c :: s := by
  rw [skipBlanks_append hgap, skipBlanks_cons h]

theorem skipBlanks_skipBlanks (s : List Char) : skipBlanks (skipBlanks s) = skipBlanks s := by
  rw [skipBlanks, skipBlanks, List.dropWhile_idempotent]

theorem readWord_append (word rest : List Char) : readWord word (word ++ rest) = .ok rest := by
  induction word with
  | nil => rfl
  | cons c word ih => rw [List.cons_append, readWord, if_pos rfl, ih]

theorem skipNumber_append {l : Literal} (h : l.Spelled s)
    (hrest : ∀ c ∈ rest.head?, continuesNumber c = false) :
    skipNumber (s ++ rest) = .ok rest := by
  rw [skipNumber, h.readLiteral_eq hrest]
  rfl

theorem skipString_escape (h : skipEscape s = .ok t) : skipString ('\\' :: s) = skipString t := by
  rw [skipString, if_neg (by decide), if_pos rfl]
  split
  · next heq => cases h.symm.trans heq
  · next heq =>
    cases h.symm.trans heq
    rfl

theorem IsStringBody.skipString_eq (h : IsStringBody s) (rest : List Char) :
    skipString (s ++ '"' :: rest) = .ok rest := by
  induction h with
  | nil => rw [List.nil_append, skipString, if_pos rfl]
  | @plain c s hquote hslash hcontrol _ ih =>
    rw [List.cons_append, skipString, if_neg hquote, if_neg hslash,
      if_neg (Nat.not_lt.mpr hcontrol), ih]
  | @letter c s hc _ ih =>
    have hescape : skipEscape (c :: (s ++ '"' :: rest)) = .ok (s ++ '"' :: rest) := if_pos hc
    rw [List.cons_append, List.cons_append, skipString_escape hescape, ih]
  | @code a b c d s hcode _ ih =>
    obtain ⟨n, hn⟩ := Option.isSome_iff_exists.mp hcode
    have hescape : skipEscape ('u' :: a :: b :: c :: d :: (s ++ '"' :: rest)) =
        .ok (s ++ '"' :: rest) := by
      rw [skipEscape, if_neg (by decide), if_pos rfl, readHex, hn]
      rfl
    simp only [List.cons_append]
    rw [skipString_escape hescape, ih]

theorem readColon_gap (h : IsGap gap) (s : List Char) : readColon (gap ++ ':' :: s) = .ok s := by
  rw [readColon, skipBlanks_gap_cons h (by decide)]
  rfl

theorem readQuote_eq (h : skipBlanks s = '"' :: t) : readQuote s = .ok t := by
  rw [readQuote, h]
  rfl

theorem readQuote_gap (h : IsGap gap) (s : List Char) : readQuote (gap ++ '"' :: s) = .ok s :=
  readQuote_eq (skipBlanks_gap_cons h (by decide) s)

theorem readNextQuote_eq (h : skipBlanks s = '"' :: t) : readNextQuote s = .ok t := by
  rw [readNextQuote, h]
  rfl

theorem closed?_gap (close : Char) (hclose : isBlank close = false) (h : IsGap gap)
    (s : List Char) : closed? close (gap ++ close :: s) = some s := by
  rw [closed?, skipBlanks_gap_cons h hclose]
  exact if_pos rfl

theorem readDelimiter_comma {early other : Fault} (h : IsGap gap) (s : List Char) :
    readDelimiter close early other (gap ++ ',' :: s) = .ok (.comma, s) := by
  rw [readDelimiter, skipBlanks_gap_cons h (by decide)]
  rfl

theorem readDelimiter_close (close : Char) (hclose : isBlank close = false ∧ close ≠ ',')
    {early other : Fault} (h : IsGap gap) (s : List Char) :
    readDelimiter close early other (gap ++ close :: s) = .ok (.close, s) := by
  rw [readDelimiter, skipBlanks_gap_cons h hclose.1]
  simp [hclose.2]

/-! ### Values -/

theorem skipValue_gap (h : IsGap gap) (fuel : Nat) (s : List Char) :
    skipValue fuel (gap ++ s) = skipValue fuel s := by
  cases fuel with
  | zero => rfl
  | succ fuel => rw [skipValue, skipValue, skipBlanks_append h]

theorem skipItems_skipBlanks (fuel : Nat) (s : List Char) :
    skipItems fuel (skipBlanks s) = skipItems fuel s := by
  have hvalue (fuel : Nat) : skipValue fuel (skipBlanks s) = skipValue fuel s := by
    cases fuel with
    | zero => rfl
    | succ fuel => rw [skipValue, skipValue, skipBlanks_skipBlanks]
  cases fuel with
  | zero => rfl
  | succ fuel => rw [skipItems, skipItems, hvalue]

/-- The characters that values begin with. -/
def beginsValue (c : Char) : Bool :=
  c.isDigit || ['n', 't', 'f', '-', '"', '[', '\x7b'].contains c

theorem IsValue.exists_cons (h : IsValue s) : ∃ c t, s = c :: t ∧ beginsValue c = Bool.true := by
  cases h with
  | @number l s negative h =>
    cases negative with
    | true => exact ⟨'-', s, rfl, rfl⟩
    | false =>
      obtain ⟨c, t, rfl, hc⟩ := h.exists_cons
      exact ⟨c, t, rfl, by rw [beginsValue, hc, Bool.true_or]⟩
  | null | true | false | string | emptyArray | array | emptyObject | object =>
    exact ⟨_, _, rfl, rfl⟩

theorem beginsValue_ne (h : beginsValue c = true) :
    isBlank c = false ∧ c ≠ ']' := by
  refine ⟨?_, ?_⟩
  · by_contra hblank
    simp only [isBlank, Bool.not_eq_false, Bool.or_eq_true, beq_iff_eq] at hblank
    rcases hblank with ((rfl | rfl) | rfl) | rfl <;> cases h
  · rintro rfl
    cases h

/-- A text behind a value that ends it. -/
def EndsValue (s : List Char) : Prop :=
  ∀ c ∈ s.head?, continuesNumber c = false

theorem endsValue_gap (h : IsGap gap) (hs : EndsValue s) : EndsValue (gap ++ s) := by
  cases gap with
  | nil => exact hs
  | cons c gap =>
    rintro _ ⟨⟩
    have hc := h c List.mem_cons_self
    simp only [isBlank, Bool.or_eq_true, beq_iff_eq] at hc
    rcases hc with ((rfl | rfl) | rfl) | rfl <;> rfl

theorem endsValue_cons (h : continuesNumber c = false) (s : List Char) : EndsValue (c :: s) := by
  rintro _ ⟨⟩
  exact h

theorem IsItems.exists_skipBlanks (h : IsItems s) (rest : List Char) :
    ∃ c t, skipBlanks (s ++ rest) = c :: t ∧ beginsValue c = true := by
  have hitem {before item : List Char} (hbefore : IsGap before) (hitem : IsValue item)
      (u : List Char) : ∃ c t, skipBlanks (before ++ (item ++ u)) = c :: t ∧
        beginsValue c = true := by
    obtain ⟨c, t, rfl, hc⟩ := hitem.exists_cons
    exact ⟨c, t ++ u, skipBlanks_gap_cons hbefore (beginsValue_ne hc).1 _, hc⟩
  cases h with
  | last hbefore hvalue hafter =>
    simp only [List.append_assoc]
    exact hitem hbefore hvalue _
  | cons hbefore hvalue hafter hs =>
    simp only [List.append_assoc]
    exact hitem hbefore hvalue _

theorem IsMembers.exists_skipBlanks (h : IsMembers s) (rest : List Char) :
    ∃ t, skipBlanks (s ++ rest) = '"' :: t := by
  cases h with
  | last hbefore =>
    simp only [List.append_assoc, List.cons_append]
    exact ⟨_, skipBlanks_gap_cons hbefore (by decide) _⟩
  | cons hbefore =>
    simp only [List.append_assoc, List.cons_append]
    exact ⟨_, skipBlanks_gap_cons hbefore (by decide) _⟩

theorem closed?_eq_none (h : skipBlanks s = c :: t) (hc : c ≠ close) : closed? close s = none := by
  rw [closed?, h]
  exact if_neg hc

theorem readItemStart_eq (h : skipBlanks s = c :: t) : readItemStart s = .ok (skipBlanks s) := by
  rw [readItemStart, h]

mutual

/-- A value is passed over. Each call on an item or a member uses up one of `fuel`, and what is
inside the brackets is shorter than the value, so its length is enough. -/
theorem IsValue.skipValue_eq {s rest : List Char} {fuel : Nat} (h : IsValue s)
    (hfuel : s.length ≤ fuel) (hrest : EndsValue rest) :
    skipValue fuel (s ++ rest) = .ok rest := by
  obtain ⟨c, t, hs, hbegins⟩ := h.exists_cons
  cases fuel with
  | zero =>
    rw [hs] at hfuel
    cases hfuel
  | succ fuel =>
    have hskip : skipBlanks (s ++ rest) = s ++ rest := by
      rw [hs, List.cons_append, skipBlanks_cons (beginsValue_ne hbegins).1]
    rw [skipValue, hskip]
    cases h with
    | null => exact readWord_append ['u', 'l', 'l'] rest
    | true => exact readWord_append ['r', 'u', 'e'] rest
    | false => exact readWord_append ['a', 'l', 's', 'e'] rest
    | @number l s negative h =>
      cases negative with
      | true => exact skipNumber_append h hrest
      | false =>
        obtain ⟨c, t, rfl, hc⟩ := h.exists_cons
        have hother : ∀ d, d.isDigit = Bool.false → c ≠ d := by
          rintro d hd rfl
          cases hc.symm.trans hd
        have hnumber := skipNumber_append h hrest
        rw [List.cons_append] at hnumber
        simp [hother, hc, hnumber]
    | @string s h =>
      rw [List.append_assoc]
      exact h.skipString_eq rest
    | @emptyArray gap h =>
      have hclosed := closed?_gap ']' (by decide) h rest
      simp [hclosed]
    | @array s h =>
      -- the reader has passed over the blanks when it comes to the first item
      obtain ⟨c, t, hfirst, hc⟩ := h.exists_skipBlanks (']' :: rest)
      have hclosed := closed?_eq_none hfirst (beginsValue_ne hc).2
      simp only [List.length_append, List.length_cons, List.length_nil] at hfuel
      have hlength : s.length < fuel := by omega
      have hitems := IsItems.skipItems_eq h hlength rest
      rw [← skipItems_skipBlanks] at hitems
      simp [hclosed, readItemStart_eq hfirst, hitems, bind, Except.bind]
    | @emptyObject gap h =>
      have hclosed := closed?_gap '\x7d' (by decide) h rest
      simp [hclosed]
    | @object s h =>
      obtain ⟨t, hfirst⟩ := h.exists_skipBlanks ('\x7d' :: rest)
      have hclosed := closed?_eq_none hfirst (by decide : '"' ≠ '\x7d')
      simp only [List.length_append, List.length_cons, List.length_nil] at hfuel
      have hlength : s.length < fuel := by omega
      have hmembers := IsMembers.skipMembers_eq h hlength rest
      simp [hclosed, hmembers]
termination_by fuel

theorem IsItems.skipItems_eq {s : List Char} {fuel : Nat} (h : IsItems s) (hfuel : s.length < fuel)
    (rest : List Char) : skipItems fuel (s ++ ']' :: rest) = .ok rest := by
  cases fuel with
  | zero => cases hfuel
  | succ fuel =>
    rw [skipItems]
    cases h with
    | @last before item after hbefore hitem hafter =>
      simp only [List.length_append] at hfuel
      have hlength : item.length ≤ fuel := by omega
      have hend := endsValue_gap hafter (endsValue_cons (c := ']') (by decide) rest)
      simp only [List.append_assoc, skipValue_gap hbefore, IsValue.skipValue_eq hitem hlength hend,
        readDelimiter_close ']' (by decide) hafter, bind, Except.bind]
    | @cons before item after s hbefore hitem hafter hs =>
      simp only [List.length_append, List.length_cons] at hfuel
      have hlength : item.length ≤ fuel := by omega
      have hlength' : s.length < fuel := by omega
      have hend := endsValue_gap hafter (endsValue_cons (c := ',') (by decide) (s ++ ']' :: rest))
      simp only [List.append_assoc, List.cons_append, skipValue_gap hbefore,
        IsValue.skipValue_eq hitem hlength hend, readDelimiter_comma hafter,
        IsItems.skipItems_eq hs hlength' rest, bind, Except.bind]
termination_by fuel

theorem IsMembers.skipMembers_eq {s : List Char} {fuel : Nat} (h : IsMembers s)
    (hfuel : s.length < fuel) (rest : List Char) :
    skipMembers fuel (s ++ '\x7d' :: rest) = .ok rest := by
  cases fuel with
  | zero => cases hfuel
  | succ fuel =>
    rw [skipMembers]
    cases h with
    | @last before name colon gap value after hbefore hname hcolon hgap hvalue hafter =>
      simp only [List.length_append, List.length_cons] at hfuel
      have hlength : value.length ≤ fuel := by omega
      have hend := endsValue_gap hafter (endsValue_cons (c := '\x7d') (by decide) rest)
      simp only [List.append_assoc, List.cons_append, readQuote_gap hbefore, hname.skipString_eq,
        readColon_gap hcolon, skipValue_gap hgap, IsValue.skipValue_eq hvalue hlength hend,
        readDelimiter_close '\x7d' (by decide) hafter, bind, Except.bind]
    | @cons before name colon gap value after s hbefore hname hcolon hgap hvalue hafter hs =>
      simp only [List.length_append, List.length_cons] at hfuel
      have hlength : value.length ≤ fuel := by omega
      have hlength' : s.length < fuel := by omega
      have hend := endsValue_gap hafter
        (endsValue_cons (c := ',') (by decide) (s ++ '\x7d' :: rest))
      simp only [List.append_assoc, List.cons_append, readQuote_gap hbefore, hname.skipString_eq,
        readColon_gap hcolon, skipValue_gap hgap, IsValue.skipValue_eq hvalue hlength hend,
        readDelimiter_comma hafter, IsMembers.skipMembers_eq hs hlength' rest, bind, Except.bind]
termination_by fuel

end

end ConditionalTemplate.Json
