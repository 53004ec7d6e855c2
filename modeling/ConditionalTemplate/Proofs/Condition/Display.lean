import ConditionalTemplate.Condition.Evaluation
import ConditionalTemplate.Proofs.Condition.Print
import ConditionalTemplate.Proofs.Value.Coercion

/-!
# Comparing a value with its own text

The text of a value, written as a literal, is equal to the value (`evaluate_display`). Between
quotes the literal is the text, and the coercion reads the kind of the value from it
(`satisfies_display`). Without quotes it may be a literal of another kind: an integer beyond 32 bits
is read as a decimal, and a small decimal without places as an integer. The coercion undoes this
(`satisfies_read_display`).
-/

namespace ConditionalTemplate

/-- Texts are ordered as their code points are. -/
theorem Text.map_toNat_lt_iff {s t : List Char} :
    s.map Char.toNat < t.map Char.toNat ↔ s < t := by
  induction s generalizing t with
  | nil =>
    cases t with
    | nil => simp
    | cons d t => simp
  | cons c s ih =>
    cases t with
    | nil => simp
    | cons d t =>
      rw [List.map_cons, List.map_cons, List.cons_lt_cons_iff, List.cons_lt_cons_iff, ih,
        Char.toNat_inj, Char.lt_def, UInt32.lt_iff_toNat_lt]
      rfl

namespace Value

variable {v w literal : Value}

theorem satisfies_text (t s : String) (c : Comparison) :
    (text t).satisfies (text s) c = c.holds (Ord.compare t s) :=
  satisfies_of_coerceLike (coerceLike_text s t) rfl c

theorem isLT_compare (t s : String) :
    (Ord.compare t s).isLT = decide (t.toList.map Char.toNat < s.toList.map Char.toNat) := by
  have hcompare : Ord.compare t s = compareOfLessAndEq t s := rfl
  have hlt : t.toList < s.toList ↔ t < s := Iff.rfl
  simp only [Text.map_toNat_lt_iff, hlt, hcompare, compareOfLessAndEq]
  split
  · next h => exact (decide_eq_true h).symm
  · next h =>
    rw [decide_eq_false h]
    split <;> rfl

theorem isEq_compare (t s : String) : (Ord.compare t s).isEq = decide (t.toList = s.toList) := by
  have hcompare : Ord.compare t s = compareOfLessAndEq t s := rfl
  simp only [String.toList_inj, hcompare, compareOfLessAndEq]
  split
  · next h =>
    have hne : t ≠ s := by
      rintro rfl
      exact String.lt_irrefl t h
    exact (decide_eq_false hne).symm
  · split
    · next h => exact (decide_eq_true h).symm
    · next h => exact (decide_eq_false h).symm

/-! ### The way back from the text -/

/-- Booleans and numbers. -/
def IsScalar : Value → Prop
  | bool _ | int _ | decimal _ => True
  | null | text _ | sequence _ => False

/-- Booleans, numbers, and texts that can be quoted: their text can be written as a literal. -/
def IsQuotable : Value → Prop
  | text t => Literal.IsQuotable t.toList
  | v => v.IsScalar

theorem isQuotable_displayText (h : v.IsQuotable) : Literal.IsQuotable v.displayText := by
  have hdecimal (d : Decimal) : Literal.IsQuotable d.text :=
    (Literal.isNumeric_text d).isQuotable
  cases v with
  | bool b => cases b <;> exact ⟨by decide, by decide, by decide⟩
  | int n =>
    show Literal.IsQuotable (Integer.text n.toInt)
    exact Integer.text_toInt n ▸ hdecimal _
  | decimal d => exact hdecimal d
  | text t => exact h
  | null | sequence => cases h

theorem isWord_displayText (h : v.IsScalar) : Text.IsWord v.displayText := by
  cases v with
  | bool b => cases b <;> exact ⟨nofun, by decide⟩
  | int n =>
    show Text.IsWord (Integer.text n.toInt)
    exact Integer.text_toInt n ▸ Literal.isWord_text _
  | decimal d => exact Literal.isWord_text d
  | null | text | sequence => cases h

/-- A value is equal to its text. -/
theorem satisfies_display (h : v.IsQuotable) : v.satisfies (text v.display) .equal = true := by
  have hvisible := (isQuotable_displayText h).visible
  have htrim : Text.trim v.display.toList = v.displayText := by
    rw [display, String.toList_ofList]
    exact Text.trim_eq_self (fun c hc => hvisible c (List.mem_of_mem_head? hc))
      fun c hc => hvisible c (List.mem_of_mem_getLast? hc)
  cases v with
  | bool b =>
    have hcoerce : (text (bool b).display).coerceLike (bool b) = some (bool b) := by
      rw [coerceLike, toBool?, htrim]
      cases b <;> rfl
    exact satisfies_of_coerceLike (o := .eq) hcoerce (by simp [order?]) .equal
  | int n =>
    have hcoerce : (text (int n).display).coerceLike (int n) = some (int n) := by
      rw [coerceLike, toInt?, htrim, displayText, Integer.read?_text, Option.bind_some,
        Integer.ofInt64?_toInt]
      rfl
    exact satisfies_of_coerceLike (o := .eq) hcoerce (by simp [order?]) .equal
  | decimal d =>
    have hcoerce : (text (decimal d).display).coerceLike (decimal d) =
        some (decimal d.dropZeroSign) := by
      rw [coerceLike, toDecimal?, htrim, displayText, Decimal.read?_text]
      rfl
    exact satisfies_of_coerceLike hcoerce (order?_decimal d.value_dropZeroSign.symm) .equal
  | text t =>
    have ht : (text t).display = t := String.ofList_toList
    rw [ht, satisfies_text, Comparison.holds, isEq_compare, decide_eq_true rfl]
  | null | sequence => cases h

/-- The text of a decimal is a literal of the same number. -/
theorem number?_read_text (d : Decimal) : (Literal.read d.text).number? = some d.value := by
  rcases Literal.read_text_cases d with ⟨n, hscale, hn, hread⟩ | hread
  · rw [hread, number?, hn, Decimal.value, hscale]
    exact congrArg some (div_one _).symm
  · rw [hread, number?, d.value_dropZeroSign]

/-- A boolean or a number is equal to its text without quotes, whatever literal this is. -/
theorem satisfies_read_display (h : v.IsScalar) :
    v.satisfies (Literal.read v.displayText) .equal = true := by
  cases v with
  | bool b => cases b <;> rfl
  | int n =>
    have hnumber : (int n).number? = some (Decimal.ofInt64 n).value :=
      congrArg some (Decimal.value_ofInt64 n).symm
    show (int n).satisfies (Literal.read (Integer.text n.toInt)) .equal = true
    rw [Integer.text_toInt]
    exact satisfies_of_number?_eq hnumber (number?_read_text _) .equal
  | decimal d => exact satisfies_of_number?_eq rfl (number?_read_text d) .equal
  | null | text | sequence => cases h

end Value

namespace Condition

variable {key literal s : List Char} {r : Record} {v : Value}

theorem evaluate_comparisonText (hkey : Text.IsWord key) (hliteral : Text.IsWord literal)
    (hv : r.get? (String.ofList key) = some v) (c : Comparison) :
    evaluate (comparisonText key c literal) r = .ok (v.satisfies (Literal.read literal) c) := by
  rw [evaluate, read_comparisonText hkey hliteral]
  show Except.ok ((Record.get r (String.ofList key)).satisfies (Literal.read literal) c) = _
  rw [Record.get, hv, Option.getD_some]

/-- Between quotes a text is a literal with no other meaning. -/
theorem evaluate_quoted (hkey : Text.IsWord key) (hs : Literal.IsQuotable s)
    (hv : r.get? (String.ofList key) = some v) (c : Comparison) :
    evaluate (comparisonText key c (Literal.quoted s)) r =
      .ok (v.satisfies (.text (String.ofList s)) c) := by
  rw [evaluate_comparisonText hkey (Literal.isWord_quoted hs) hv, Literal.read_quoted,
    Literal.unquote_quoted hs]

/-- A field is equal to the text of its value in quotes, and if the value is a boolean or a number
without them as well. A text compares with a quoted one as a text, character by character, whatever
else the quoted one would be without quotes. -/
theorem evaluate_display (hkey : Text.IsWord key) (hv : r.get? (String.ofList key) = some v) :
    (v.IsQuotable →
      evaluate (comparisonText key .equal (Literal.quoted v.displayText)) r = .ok true) ∧
    (v.IsScalar → evaluate (comparisonText key .equal v.displayText) r = .ok true) ∧
    ∀ t, v = .text t → ∀ s, Literal.IsQuotable s →
      evaluate (comparisonText key .equal (Literal.quoted s)) r = .ok (decide (t.toList = s)) ∧
      evaluate (comparisonText key .less (Literal.quoted s)) r =
        .ok (decide (t.toList.map Char.toNat < s.map Char.toNat)) := by
  refine ⟨fun h => ?_, fun h => ?_, ?_⟩
  · rw [evaluate_quoted hkey (Value.isQuotable_displayText h) hv]
    exact congrArg _ (Value.satisfies_display h)
  · rw [evaluate_comparisonText hkey (Value.isWord_displayText h) hv,
      Value.satisfies_read_display h]
  · rintro t rfl s hs
    rw [evaluate_quoted hkey hs hv, evaluate_quoted hkey hs hv, Value.satisfies_text,
      Value.satisfies_text, Comparison.holds, Comparison.holds, Value.isEq_compare,
      Value.isLT_compare, String.toList_ofList]
    exact ⟨rfl, rfl⟩

/-- The least integer, a negative zero, and a text that looks like a number. -/
def extremes : Record :=
  Table.ofList [("least", .int Int64.minValue),
    ("nothing", .decimal .negativeZero), ("code", .text "1e5")]

theorem evaluate_display_extremes :
    (evaluate "least == '-9223372036854775808'".toList extremes = .ok true ∧
      evaluate "least == -9223372036854775808".toList extremes = .ok true) ∧
    (evaluate "nothing == '-0.0000000000000000000000000000'".toList extremes = .ok true ∧
      evaluate "nothing == -0.0000000000000000000000000000".toList extremes = .ok true) ∧
    evaluate "code == '1e5'".toList extremes = .ok true ∧
      evaluate "code == '007'".toList extremes = .ok false ∧
      evaluate "code < '007'".toList extremes = .ok false ∧
      evaluate "code < 'TRUE'".toList extremes = .ok true := by
  have hword : ∀ k ∈ ["least", "nothing", "code"], Text.IsWord k.toList := by
    simp only [List.forall_mem_cons]
    exact ⟨⟨by decide, by decide⟩, ⟨by decide, by decide⟩, ⟨by decide, by decide⟩, nofun⟩
  have hleast := evaluate_display (r := extremes) (hword "least" (by decide)) rfl
  have hnothing := evaluate_display (r := extremes) (hword "nothing" (by decide)) rfl
  have hcode := evaluate_display (r := extremes) (hword "code" (by decide)) rfl
  have hzeros : Literal.IsQuotable "007".toList := ⟨by decide, by decide, by decide⟩
  have htrue : Literal.IsQuotable "TRUE".toList := ⟨by decide, by decide, by decide⟩
  exact ⟨⟨hleast.1 trivial, hleast.2.1 trivial⟩, ⟨hnothing.1 trivial, hnothing.2.1 trivial⟩,
    hcode.1 ⟨by decide, by decide, by decide⟩, (hcode.2.2 "1e5" rfl _ hzeros).1,
    (hcode.2.2 "1e5" rfl _ hzeros).2, (hcode.2.2 "1e5" rfl _ htrue).2⟩

end Condition

end ConditionalTemplate
