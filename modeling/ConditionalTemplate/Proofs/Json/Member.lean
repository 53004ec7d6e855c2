import ConditionalTemplate.Data
import ConditionalTemplate.Json.Reader
import ConditionalTemplate.Proofs.Json.Number
import ConditionalTemplate.Proofs.Json.Spelling

/-!
# Objects with one number

An object with a number as its one member is read from its text (`read_memberText`), and it is the
record with one field (`get?_memberRecord`). A number alone is read as well, unless it is beyond the
doubles (`read_signed`).
-/

namespace ConditionalTemplate.Json

variable {s rest : List Char} {c : Char} {l : Literal} {n : Number} {negative : Bool} {fuel : Nat}

/-! ### Numbers -/

theorem Literal.Spelled.exists_cons (h : l.Spelled s) :
    ∃ c t, s = c :: t ∧ c.isDigit = true := by
  cases h with
  | @mk integer _ _ _ _ hinteger _ _ =>
    cases integer with
    | nil => exact absurd rfl hinteger.ne_nil
    | cons c integer => exact ⟨c, _, rfl, hinteger.digits c List.mem_cons_self⟩

theorem readNumber_eq (h : l.Spelled s) (hrest : ∀ c ∈ rest.head?, continuesNumber c = false) :
    readNumber negative (s ++ rest) =
      (l.number? negative).elim (.error .numberOutOfRange) fun n => .ok (n, rest) := by
  cases hn : l.number? negative <;>
    simp [readNumber, h.readLiteral_eq hrest, hn, bind, Except.bind]

theorem isBlank_of_isDigit (h : c.isDigit = true) : isBlank c = false := by
  by_contra hblank
  simp only [isBlank, Bool.not_eq_false, Bool.or_eq_true, beq_iff_eq] at hblank
  rcases hblank with ((rfl | rfl) | rfl) | rfl <;> cases h

/-- A sign or a digit begins a number. -/
theorem readValue_signed (h : l.Spelled s) (negative : Bool) (fuel : Nat) (rest : List Char) :
    readValue (fuel + 1) ((if negative then ['-'] else []) ++ s ++ rest) =
      (readNumber negative (s ++ rest)).map fun (n, rest) => (.number n, rest) := by
  cases negative with
  | true =>
    have hskip : skipBlanks ('-' :: (s ++ rest)) = '-' :: (s ++ rest) := rfl
    simp [readValue, hskip]
  | false =>
    obtain ⟨c, t, rfl, hc⟩ := h.exists_cons
    have hskip : skipBlanks (c :: (t ++ rest)) = c :: (t ++ rest) :=
      List.dropWhile_cons_of_neg (by simp [isBlank_of_isDigit hc])
    have hother : ∀ d, d.isDigit = false → c ≠ d := by
      rintro d hd rfl
      cases hc.symm.trans hd
    simp [readValue, hskip, hc, hother]

theorem readValue_number (h : l.Spelled s) (hn : l.number? negative = some n)
    (hrest : ∀ c ∈ rest.head?, continuesNumber c = false) :
    readValue (fuel + 1) ((if negative then ['-'] else []) ++ s ++ rest) =
      .ok (.number n, rest) := by
  rw [readValue_signed h negative fuel rest, readNumber_eq h hrest, hn]
  rfl

theorem read_signed (h : l.Spelled s) (negative : Bool) :
    read ((if negative then ['-'] else []) ++ s) =
      (l.number? negative).elim (.error .numberOutOfRange) fun n => .ok (.number n) := by
  have hvalue (fuel : Nat) := readValue_signed h negative fuel []
  rw [readNumber_eq h (by simp), List.append_nil] at hvalue
  rw [read, enoughFuel, hvalue]
  cases l.number? negative <;> rfl

/-! ### Objects -/

/-- An object with one member. -/
def memberText (key value : List Char) : List Char :=
  '\x7b' :: (writeString key ++ ':' :: ' ' :: (value ++ ['\x7d']))

theorem readValue_space (s : List Char) : readValue fuel (' ' :: s) = readValue fuel s := by
  have hskip : skipBlanks (' ' :: s) = skipBlanks s := rfl
  cases fuel with
  | zero => rfl
  | succ fuel => rw [readValue, readValue, hskip]

theorem read_memberText (key : List Char) (h : l.Spelled s) (hn : l.number? negative = some n) :
    read (memberText key ((if negative then ['-'] else []) ++ s)) =
      .ok (.object [(String.ofList key, .number n)]) := by
  generalize hw : (if negative then ['-'] else []) ++ s = w
  have hvalue (fuel : Nat) : readValue (fuel + 1) (w ++ ['\x7d']) = .ok (.number n, ['\x7d']) := by
    rw [← hw]
    exact readValue_number h hn (by decide)
  have hmembers (fuel : Nat) :
      readMembers (fuel + 2) (key.flatMap writeChar ++ '"' :: ':' :: ' ' :: (w ++ ['\x7d'])) =
        .ok ([(String.ofList key, .number n)], []) := by
    have hcolon : readColon (':' :: ' ' :: (w ++ ['\x7d'])) = .ok (' ' :: (w ++ ['\x7d'])) := rfl
    have hclose : readDelimiter '\x7d' .endInObject .expectedCommaOrBrace ['\x7d'] =
      .ok (.close, []) := rfl
    simp only [readMembers, readString_writeString, hcolon, readValue_space, hvalue, hclose, bind,
      Except.bind]
  have hopen : memberText key w =
      '\x7b' :: '"' :: (key.flatMap writeChar ++ '"' :: ':' :: ' ' :: (w ++ ['\x7d'])) := by
    simp [memberText, writeString]
  rw [read, enoughFuel, hopen, List.length_cons]
  generalize key.flatMap writeChar ++ '"' :: ':' :: ' ' :: (w ++ ['\x7d']) = members at *
  have hskip : skipBlanks ('\x7b' :: '"' :: members) = '\x7b' :: '"' :: members := rfl
  have hclosed : closed? '\x7d' ('"' :: members) = none := rfl
  have hquote : readQuote ('"' :: members) = .ok members := rfl
  have hend : readEnd [] = .ok () := rfl
  simp [readValue, hskip, hclosed, hquote, hmembers, hend, Nat.mul_add, bind, Except.bind]

/-- The record has one field. -/
theorem get?_memberRecord [BinaryConversion] (key : String) (n : Number) :
    (Data.json (.object [(key, .number n)])).toRecord = .ok (Table.ofList [(key, n.toValue)]) ∧
      (Table.ofList [(key, n.toValue)]).get? key = some n.toValue := by
  refine ⟨rfl, ?_⟩
  rw [Table.ofList, List.foldl_cons, List.foldl_nil, Table.get?_insert, if_pos rfl]

end ConditionalTemplate.Json
