import ConditionalTemplate.Json.StringLiteral

/-!
# Spellings of strings

`Spells t s`: between quotes the text `t` is a JSON string for `s`. Each character may be written as
it is, unless it has to be escaped, by the letter it has, or by its number, in two halves beyond the
first plane. The reader takes every spelling for its string (`Spells.readString_eq`), and what is
written of a string is one (`spells_writeString`), so a string is read back from it
(`readString_writeString`).
-/

namespace ConditionalTemplate.Json

inductive Spells : List Char → List Char → Prop where
  | nil : Spells [] []
  | plain {c : Char} {t s : List Char} (hquote : c ≠ '"') (hslash : c ≠ '\\')
    (hcontrol : 0x20 ≤ c.toNat) (h : Spells t s) : Spells (c :: t) (c :: s)
  | letter {e c : Char} {t s : List Char} (he : shortEscape? e = some c) (h : Spells t s) :
    Spells ('\\' :: e :: t) (c :: s)
  | code {a b c d : Char} {n : Nat} {t s : List Char} (hn : hexNumber? a b c d = some n)
    (hsurrogate : n < 0xD800 ∨ 0xDFFF < n) (h : Spells t s) :
    Spells ('\\' :: 'u' :: a :: b :: c :: d :: t) (Char.ofNat n :: s)
  /-- A character by the two halves of a surrogate pair. -/
  | pair {a b c d a' b' c' d' : Char} {high low : Nat} {t s : List Char}
    (hhigh : hexNumber? a b c d = some high) (hhigh' : 0xD800 ≤ high ∧ high ≤ 0xDBFF)
    (hlow : hexNumber? a' b' c' d' = some low) (hlow' : 0xDC00 ≤ low ∧ low ≤ 0xDFFF)
    (h : Spells t s) :
    Spells ('\\' :: 'u' :: a :: b :: c :: d :: '\\' :: 'u' :: a' :: b' :: c' :: d' :: t)
      (Char.ofNat ((high - 0xD800) * 0x400 + (low - 0xDC00) + 0x10000) :: s)

variable {s t : List Char} {c : Char}

theorem readString_escape (h : readEscape s = .ok (c, t)) :
    readString ('\\' :: s) = (readString t).map fun (u, rest) => (c :: u, rest) := by
  rw [readString, if_neg (by decide), if_pos rfl]
  split
  · next heq => cases h.symm.trans heq
  · next heq =>
    cases h.symm.trans heq
    rfl

/-- Every spelling is read as the string. -/
theorem Spells.readString_eq (h : Spells t s) (rest : List Char) :
    readString (t ++ '"' :: rest) = .ok (s, rest) := by
  have hu : shortEscape? 'u' = none := rfl
  induction h with
  | nil => rw [List.nil_append, readString, if_pos rfl]
  | plain hquote hslash hcontrol _ ih =>
    rw [List.cons_append, readString, if_neg hquote, if_neg hslash,
      if_neg (Nat.not_lt.mpr hcontrol), ih]
    rfl
  | @letter e c t s he _ ih =>
    have hescape : readEscape (e :: (t ++ '"' :: rest)) = .ok (c, t ++ '"' :: rest) := by
      rw [readEscape, he]
    rw [List.cons_append, List.cons_append, readString_escape hescape, ih]
    rfl
  | @code a b c d n t s hn hsurrogate _ ih =>
    have hescape : readEscape ('u' :: a :: b :: c :: d :: (t ++ '"' :: rest)) =
        .ok (Char.ofNat n, t ++ '"' :: rest) := by
      simp only [readEscape, hu, if_true, readHex, hn, bind, Except.bind]
      rw [if_neg (by omega), if_neg (by omega)]
    simp only [List.cons_append]
    rw [readString_escape hescape, ih]
    rfl
  | @pair a b c d a' b' c' d' high low t s hhigh hhigh' hlow hlow' _ ih =>
    have hsecond : readLowSurrogate high
        ('\\' :: 'u' :: a' :: b' :: c' :: d' :: (t ++ '"' :: rest)) =
        .ok (Char.ofNat ((high - 0xD800) * 0x400 + (low - 0xDC00) + 0x10000),
          t ++ '"' :: rest) := by
      simp only [readLowSurrogate, readHex, hlow, bind, Except.bind]
      rw [if_pos hlow']
    have hescape : readEscape ('u' :: a :: b :: c :: d :: '\\' :: 'u' :: a' :: b' :: c' :: d' ::
        (t ++ '"' :: rest)) =
        .ok (Char.ofNat ((high - 0xD800) * 0x400 + (low - 0xDC00) + 0x10000),
          t ++ '"' :: rest) := by
      simp only [readEscape, hu, if_true, readHex, hhigh, bind, Except.bind]
      rw [if_neg (by omega), if_pos hhigh']
      exact hsecond
    simp only [List.cons_append]
    rw [readString_escape hescape, ih]
    rfl

/-- A character as it is written, in front of a spelling. -/
theorem Spells.writeChar (h : Spells t s) (c : Char) :
    Spells (writeChar c ++ t) (c :: s) := by
  rw [Json.writeChar]
  split
  · next e he =>
    have hback : shortEscape? e = some c := by
      grind [shortEscapeOf?, shortEscape?]
    exact .letter hback h
  · next hnone =>
    split
    · next hcontrol =>
      -- a control character has no letter, and its number two digits
      have hnumber : ∀ n < 0x20,
          hexNumber? '0' '0' (Nat.digitChar (n / 16)) (Nat.digitChar (n % 16)) = some n := by
        decide
      have hspells := Spells.code (hnumber _ hcontrol) (by omega) h
      rwa [Char.ofNat_toNat] at hspells
    · next hplain =>
      have hquote : c ≠ '"' := by
        rintro rfl
        cases hnone
      have hslash : c ≠ '\\' := by
        rintro rfl
        cases hnone
      exact .plain hquote hslash (Nat.not_lt.mp hplain) h

theorem spells_writeString (s : List Char) : Spells (s.flatMap writeChar) s := by
  induction s with
  | nil => exact .nil
  | cons c s ih =>
    rw [List.flatMap_cons]
    exact ih.writeChar c

theorem readString_writeString (s rest : List Char) :
    readString (s.flatMap writeChar ++ '"' :: rest) = .ok (s, rest) :=
  (spells_writeString s).readString_eq rest

end ConditionalTemplate.Json
