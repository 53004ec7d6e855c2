import ConditionalTemplate.Condition.Literal
import ConditionalTemplate.Proofs.Decimal.Text
import ConditionalTemplate.Proofs.Text.Words
import ConditionalTemplate.Proofs.Value.Equality

/-!
# Writing literals

A literal can be written so that it is read back (`read_print`). No kind that is tried earlier may
take what is written, so a decimal without places gets a point, which no integer has, and a text
gets quotes, with which no other literal begins (`read_quoted`). The literals that are read are the
ones that come back: they are canonical (`isCanonical_read`).
-/

namespace ConditionalTemplate

/-- Zero loses its sign. -/
def Value.dropZeroSign : Value → Value
  | .decimal d => .decimal d.dropZeroSign
  | v => v

/-- The scale of a decimal. -/
def Value.decimalScale? : Value → Option Nat
  | .decimal d => some d.scale
  | _ => none

theorem Value.same_dropZeroSign (v : Value) : v.same v.dropZeroSign = true := by
  cases v with
  | decimal d => exact Decimal.sameValue_iff.mpr d.value_dropZeroSign.symm
  | null | bool | int | text | sequence => exact Value.same_refl _

theorem Value.decimalScale?_dropZeroSign (v : Value) :
    v.dropZeroSign.decimalScale? = v.decimalScale? := by
  cases v <;> rfl

namespace Literal

variable {s : List Char} {v : Value}

theorem readInt?_eq_none {c : Char} (hdigit : c.isDigit = false) (hc : c ∉ ['+', '-'])
    (h : c ∈ s) : readInt? s = none := by
  rw [readInt?, Integer.readWithin?, Integer.read?_eq_none_of_mem hdigit hc h]
  rfl

/-! ### Quotes -/

/-- A text that can be written between quotes: it has no white space, and no quotes at its ends. -/
structure IsQuotable (s : List Char) : Prop where
  visible : ∀ c ∈ s, Text.isBlank c = false
  head : ∀ c ∈ s.head?, c ≠ '\x27'
  last : ∀ c ∈ s.getLast?, c ≠ '\x27'

/-- The text between single quotes. -/
def quoted (s : List Char) : List Char :=
  '\x27' :: (s ++ ['\x27'])

theorem unquote_quoted (h : IsQuotable s) : unquote (quoted s) = s := by
  cases s with
  | nil => rfl
  | cons c s =>
    have hhead : (c == '\x27') = false := beq_eq_false_iff_ne.mpr (h.head c rfl)
    have hlast : ∀ x ∈ (c :: s).reverse.head?, (x == '\x27') = false := by
      rw [List.head?_reverse]
      exact fun x hx => beq_eq_false_iff_ne.mpr (h.last x hx)
    have hquote : ∀ x ∈ ['\x27'], (x == '\x27') = true := by decide
    have hend := (Text.takeWhile_append_of_head hquote hlast).2
    rw [unquote, quoted, List.dropWhile_cons_of_pos rfl, List.cons_append,
      List.dropWhile_cons_of_neg (by rw [hhead]; decide), ← List.cons_append, List.reverse_append,
      List.reverse_singleton, hend, List.reverse_reverse]

theorem isQuotable_unquote (h : ∀ c ∈ s, Text.isBlank c = false) : IsQuotable (unquote s) := by
  -- The cut at the end leaves the first character in its place, if there is one left.
  generalize ht : s.dropWhile (· == '\x27') = t
  have hcut : unquote s ++ (t.reverse.takeWhile (· == '\x27')).reverse = t := by
    rw [unquote, ht, ← List.reverse_append, List.takeWhile_append_dropWhile, List.reverse_reverse]
  constructor
  · intro c hc
    have hct : c ∈ s.dropWhile (· == '\x27') := by
      rw [ht, ← hcut]
      exact List.mem_append_left _ hc
    exact h c ((List.dropWhile_sublist _).mem hct)
  · intro c hc
    have hct : c ∈ (s.dropWhile (· == '\x27')).head? := by
      rw [ht, ← hcut, List.head?_append, hc]
      rfl
    exact beq_eq_false_iff_ne.mp
      (Text.eq_false_of_mem_head?_dropWhile (p := (· == '\x27')) hct)
  · intro c hc
    rw [unquote, List.getLast?_reverse] at hc
    exact beq_eq_false_iff_ne.mp
      (Text.eq_false_of_mem_head?_dropWhile (p := (· == '\x27')) hc)

/-- Quotes make a text of anything. -/
theorem read_quoted (s : List Char) :
    read (quoted s) = .text (String.ofList (unquote (quoted s))) := by
  have hnull : quoted s ≠ ['n', 'u', 'l', 'l'] := nofun
  have hbool : Value.readBool? (quoted s) = none := by
    rw [Value.readBool?, if_neg (by rintro ⟨⟩), if_neg (by rintro ⟨⟩)]
  have hint : readInt? (quoted s) = none := by
    have hquote : '\x27' ∈ quoted s := List.mem_cons_self
    exact readInt?_eq_none (by decide) (by decide) hquote
  have hdecimal : readDecimal? (quoted s) = none := by
    rw [readDecimal?, quoted, Decimal.read?_eq_none (by decide) (by decide), ite_self]
  rw [read, if_neg hnull, hbool, hint, hdecimal]

/-! ### Numbers -/

/-- A text of digits, signs and points: of characters from `-` to `9`. -/
def IsNumeric (s : List Char) : Prop :=
  ∀ c ∈ s, 45 ≤ c.toNat ∧ c.toNat ≤ 57

theorem IsNumeric.visible (h : IsNumeric s) : ∀ c ∈ s, Text.isBlank c = false := by
  intro c hc
  obtain ⟨hlo, hhi⟩ := h c hc
  rw [Bool.eq_false_iff]
  intro hblank
  simp only [Text.isBlank, Bool.or_eq_true, Bool.and_eq_true, decide_eq_true_eq,
    beq_iff_eq] at hblank
  omega

theorem IsNumeric.isQuotable (h : IsNumeric s) : IsQuotable s := by
  have hquote : ∀ c ∈ s, c ≠ '\x27' := by
    rintro c hc rfl
    exact absurd (h _ hc).1 (by decide)
  exact ⟨h.visible, fun c hc => hquote c (List.mem_of_mem_head? hc),
    fun c hc => hquote c (List.mem_of_mem_getLast? hc)⟩

theorem IsNumeric.not_mem {c : Char} (h : IsNumeric s) (hc : 57 < c.toNat) : c ∉ s := by
  intro hmem
  have := (h c hmem).2
  omega

theorem toLower_of_le {c : Char} (h : c.toNat ≤ 57) : c.toLower = c := by
  have hupper : ¬(c.val ≥ 'A'.val ∧ c.val ≤ 'Z'.val) := fun hu => by
    have hlo : 'A'.toNat ≤ c.toNat := UInt32.le_iff_toNat_le.mp hu.1
    exact absurd (Nat.le_trans hlo h) (by decide)
  exact dif_neg hupper

/-- What does not begin with a letter and has no separator is not null or a boolean. -/
theorem read_of_head (hhead : ∀ c ∈ s.head?, c.toNat ≤ 57) (hscore : '_' ∉ s) : read s =
    if let some n := readInt? s then .int n
    else if let some d := Decimal.read? s then .decimal d
    else .text (String.ofList (unquote s)) := by
  have hnull : s ≠ ['n', 'u', 'l', 'l'] := by
    rintro rfl
    exact absurd (hhead 'n' rfl) (by decide)
  have hother : ∀ b, s.map Char.toLower ≠ Value.boolText b := by
    intro b hb
    cases s with
    | nil => cases b <;> cases hb
    | cons c s =>
      have hc := hhead c rfl
      rw [List.map_cons, toLower_of_le hc] at hb
      cases b with
      | true =>
        obtain ⟨rfl, -⟩ := List.cons.inj hb
        exact absurd hc (by decide)
      | false =>
        obtain ⟨rfl, -⟩ := List.cons.inj hb
        exact absurd hc (by decide)
  have hbool : Value.readBool? s = none := by
    rw [Value.readBool?, if_neg (hother true), if_neg (hother false)]
  have hcontains : s.contains '_' = false := by simpa using hscore
  rw [read, if_neg hnull, hbool, readDecimal?, hcontains]
  rfl

/-- No number is null or a boolean, or has a separator. -/
theorem IsNumeric.read_eq (h : IsNumeric s) : read s =
    if let some n := readInt? s then .int n
    else if let some d := Decimal.read? s then .decimal d
    else .text (String.ofList (unquote s)) :=
  read_of_head (fun c hc => (h c (List.mem_of_mem_head? hc)).2) (h.not_mem (by decide))

theorem isNumeric_text (d : Decimal) : IsNumeric d.text :=
  fun _ => Decimal.toNat_mem_text

theorem isWord_text (d : Decimal) : Text.IsWord d.text :=
  ⟨d.text_ne_nil, (isNumeric_text d).visible⟩

theorem readInt?_eq_some_iff {n : Int64} : readInt? s = some n ↔ Integer.read? s = some n.toInt ∧
    Int32.minValue.toInt ≤ n.toInt ∧ n.toInt ≤ Int32.maxValue.toInt := by
  rw [readInt?, Integer.readWithin?, Option.map_eq_some_iff]
  constructor
  · rintro ⟨z, hz, rfl⟩
    obtain ⟨hread, hbounds⟩ := Option.filter_eq_some_iff.mp hz
    have hmin : Int32.minValue.toInt = -2147483648 := by decide
    have hmax : Int32.maxValue.toInt = 2147483647 := by decide
    have hz := of_decide_eq_true hbounds
    have hexact : (Int64.ofInt z).toInt = z := Int64.toInt_ofInt_of_le (by omega) (by omega)
    rw [hexact]
    exact ⟨hread, hz⟩
  · rintro ⟨hread, hbounds⟩
    exact ⟨n.toInt, Option.filter_eq_some_iff.mpr ⟨hread, decide_eq_true hbounds⟩,
      Int64.ofInt_toInt n⟩

/-- The text of a decimal is a literal of the same value: an integer, if it has no places and is
not too large. -/
theorem read_text_cases (d : Decimal) :
    (∃ n : Int64, d.scale = 0 ∧ n.toInt = d.signed ∧ read d.text = .int n) ∨
      read d.text = .decimal d.dropZeroSign := by
  rw [(isNumeric_text d).read_eq]
  cases hint : readInt? d.text with
  | none => exact .inr (by rw [Decimal.read?_text])
  | some n =>
    have hread := (readInt?_eq_some_iff.mp hint).1
    by_cases hscale : d.scale = 0
    · rw [Integer.read?_decimalText hscale] at hread
      exact .inl ⟨n, hscale, (Option.some.inj hread).symm, rfl⟩
    · -- With places there is a point, which no integer has.
      rw [Integer.read?_eq_none_of_mem (by decide) (by decide)
        (Decimal.point_mem_text hscale)] at hread
      cases hread

/-! ### Writing and reading -/

/-- The literals that can be read: integers have 32 bits, and texts can be quoted. -/
def IsCanonical : Value → Prop
  | .int n => Int32.minValue.toInt ≤ n.toInt ∧ n.toInt ≤ Int32.maxValue.toInt
  | .text t => IsQuotable t.toList
  | .sequence _ => False
  | _ => True

/-- Writes a literal: a decimal always with a point, a text always with quotes. -/
def print : Value → List Char
  | .null => ['n', 'u', 'l', 'l']
  | .decimal d => if d.scale = 0 then d.text ++ ['.'] else d.text
  | .text t => quoted t.toList
  | v => v.displayText

theorem isWord_quoted (h : IsQuotable s) : Text.IsWord (quoted s) := by
  refine ⟨List.cons_ne_nil _ _, List.forall_mem_cons.mpr ⟨by decide, ?_⟩⟩
  exact List.forall_mem_append.mpr ⟨h.visible, by decide⟩

theorem isNumeric_print_decimal (d : Decimal) : IsNumeric (print (.decimal d)) := by
  rw [print]
  split
  · exact List.forall_mem_append.mpr ⟨isNumeric_text d, by decide⟩
  · exact isNumeric_text d

theorem point_mem_print (d : Decimal) : '.' ∈ print (.decimal d) := by
  rw [print]
  split
  · exact List.mem_append_right _ (List.mem_singleton.mpr rfl)
  · next h => exact Decimal.point_mem_text h

theorem isWord_print (h : IsCanonical v) : Text.IsWord (print v) := by
  cases v with
  | null => exact ⟨nofun, by decide⟩
  | bool b => cases b <;> exact ⟨nofun, by decide⟩
  | int n =>
    show Text.IsWord (Integer.text n.toInt)
    exact Integer.text_toInt n ▸ isWord_text _
  | decimal d =>
    exact ⟨List.ne_nil_of_mem (point_mem_print d), (isNumeric_print_decimal d).visible⟩
  | text t => exact isWord_quoted h
  | sequence items => cases h

/-- Every canonical literal is read back from what is written of it, up to the sign of zero. -/
theorem read_print (h : IsCanonical v) : read (print v) = v.dropZeroSign := by
  cases v with
  | null => rfl
  | bool b => cases b <;> rfl
  | int n =>
    have hn : readInt? (Integer.text n.toInt) = some n :=
      readInt?_eq_some_iff.mpr ⟨Integer.read?_text n, h⟩
    have hnumeric : IsNumeric (Integer.text n.toInt) := Integer.text_toInt n ▸ isNumeric_text _
    show read (Integer.text n.toInt) = .int n
    rw [hnumeric.read_eq, hn]
  | decimal d =>
    have hint : readInt? (print (.decimal d)) = none :=
      readInt?_eq_none (by decide) (by decide) (point_mem_print d)
    have hdecimal : Decimal.read? (print (.decimal d)) = some d.dropZeroSign := by
      rw [print]
      split
      · next hscale => exact Decimal.read?_text_point hscale
      · exact Decimal.read?_text d
    rw [(isNumeric_print_decimal d).read_eq, hint, hdecimal, Value.dropZeroSign]
  | text t =>
    show read (quoted t.toList) = .text t
    rw [read_quoted, unquote_quoted h, String.ofList_toList]
  | sequence items => cases h

/-- Every literal that is read from a text without white space is canonical. -/
theorem isCanonical_read (h : ∀ c ∈ s, Text.isBlank c = false) : IsCanonical (read s) := by
  rw [read]
  split
  · trivial
  · split
    · trivial
    · split
      · next hn => exact (readInt?_eq_some_iff.mp hn).2
      · split
        · trivial
        · rw [IsCanonical, String.toList_ofList]
          exact isQuotable_unquote h

end Literal

end ConditionalTemplate
