import ConditionalTemplate.Proofs.Normalization.Lines
import ConditionalTemplate.Text.Pattern

/-!
# Normalization by patterns

The three steps of normalization replace the matches of a pattern each: runs of spaces and tabs
(`collapse_eq_replaceAll`), white space up to a line break (`dropBefore_eq_replaceAll`), and a line
break with white space after it (`dropAfter_eq_replaceAll`). So `normalize` is three replacements
and a trim (`normalize_eq_replaceAll`).
-/

namespace ConditionalTemplate.Normalization

open Text (isBlank Pattern)
open Text.Pattern (matchParts? replaceAll)

variable {p : Char → Bool} {c : Char} {s rest : List Char}

def isBreak (c : Char) : Bool :=
  c == '\n'

/-- The pattern `[ \t]+`. -/
def horizontalRun : Pattern where
  first := .many isSpaceOrTab

/-- The pattern `\s+\n`. -/
def beforeBreak : Pattern where
  first := .many isBlank
  others := [.one isBreak]

/-- The pattern `\n\s+`. -/
def afterBreak : Pattern where
  first := .one isBreak
  others := [.many isBlank]

/-- The last part of a pattern takes a run as a whole. -/
theorem matchParts?_many (s : List Char) : matchParts? [.many p] (c :: s) =
    if p c then some (s.dropWhile p) else none := by
  induction s generalizing c with
  | nil => simp [matchParts?]
  | cons d s ih =>
    rw [matchParts?, ih]
    cases hd : p d <;> simp [hd, matchParts?]

theorem dropWhile_of_matchParts?_many (h : matchParts? [.many p] s = some rest) :
    s.dropWhile p = rest := by
  cases s with
  | nil => cases h
  | cons c s =>
    rw [matchParts?_many] at h
    split at h
    · next hc => rw [List.dropWhile_cons_of_pos hc, Option.some.inj h]
    · cases h

theorem dropWhile_of_matchParts?_many_none (h : matchParts? [.many p] s = none) :
    s.dropWhile p = s := by
  cases s with
  | nil => rfl
  | cons c s =>
    rw [matchParts?_many] at h
    split at h
    · cases h
    · next hc => exact List.dropWhile_cons_of_neg hc

/-! ### Spaces and tabs -/

theorem collapse_true (s : List Char) :
    collapse true s = collapse false (s.dropWhile isSpaceOrTab) := by
  induction s with
  | nil => rfl
  | cons c s ih =>
    cases hc : isSpaceOrTab c with
    | true => rw [collapse, hc, if_pos rfl, if_pos rfl, ih, List.dropWhile_cons_of_pos hc]
    | false =>
      rw [List.dropWhile_cons_of_neg (by simp [hc]), collapse, collapse, hc]
      rfl

/-- Every run of spaces and tabs becomes a space. -/
theorem collapse_eq_replaceAll (s : List Char) :
    collapse false s = horizontalRun.replaceAll [' '] s := by
  refine Pattern.eq_replaceAll rfl (fun s rest h => ?_) (fun c s h => ?_) s
  · cases s with
    | nil => cases h
    | cons c s =>
      rw [Pattern.match?, horizontalRun, matchParts?_many] at h
      split at h
      · next hc =>
        rw [collapse, if_pos hc, if_neg Bool.false_ne_true, collapse_true, Option.some.inj h]
        rfl
      · cases h
  · rw [Pattern.match?, horizontalRun, matchParts?_many] at h
    split at h
    · cases h
    · next hc => rw [collapse, if_neg hc]

/-! ### White space before a line break -/

theorem matchParts?_break : matchParts? [.one isBreak] s = some rest ↔ s = '\n' :: rest := by
  cases s with
  | nil => simp [matchParts?]
  | cons c s => simp [matchParts?, isBreak]

/-- There is a match where white space reaches a line break behind it. -/
theorem isSome_match?_beforeBreak (c : Char) (s : List Char) :
    (beforeBreak.match? (c :: s)).isSome = (isBlank c && reachesBreak s) := by
  induction s generalizing c with
  | nil => cases hc : isBlank c <;> simp [Pattern.match?, beforeBreak, matchParts?, hc, reachesBreak]
  | cons d s ih =>
    have hone : (matchParts? [.one isBreak] (d :: s)).isSome = (d == '\n') := by
      rw [matchParts?, matchParts?, isBreak]
      split <;> simp_all
    have hmore := ih d
    rw [Pattern.match?, beforeBreak] at hmore ⊢
    rw [matchParts?, reachesBreak]
    cases hc : isBlank c with
    | false => simp
    | true =>
      rw [if_pos rfl, Option.isSome_or, hmore, hone, Bool.true_and, Bool.or_comm]

/-- The match goes up to the last line break of the white space. -/
theorem dropBefore_of_match? (h : beforeBreak.match? s = some rest) :
    dropBefore s = '\n' :: dropBefore rest := by
  induction s with
  | nil => cases h
  | cons c s ih =>
    have hdrop : (isBlank c && reachesBreak s) = true := by
      rw [← isSome_match?_beforeBreak, h]
      rfl
    rw [dropBefore, if_pos hdrop]
    rw [Pattern.match?, beforeBreak, matchParts?, if_pos (Bool.and_eq_true_iff.mp hdrop).1,
      Option.or_eq_some_iff] at h
    rcases h with h | ⟨hnone, h⟩
    · exact ih h
    · obtain rfl := matchParts?_break.mp h
      have hlast : (isBlank '\n' && reachesBreak rest) = false := by
        rw [← isSome_match?_beforeBreak, Pattern.match?, beforeBreak, hnone]
        rfl
      rw [dropBefore, hlast]
      rfl

/-- White space up to a line break becomes the line break. -/
theorem dropBefore_eq_replaceAll (s : List Char) :
    dropBefore s = beforeBreak.replaceAll ['\n'] s := by
  refine Pattern.eq_replaceAll rfl (fun s rest => dropBefore_of_match?) (fun c s h => ?_) s
  rw [dropBefore, ← isSome_match?_beforeBreak, h]
  rfl

/-! ### White space after a line break -/

theorem match?_afterBreak (c : Char) (s : List Char) : afterBreak.match? (c :: s) =
    if c == '\n' then matchParts? [.many isBlank] s else none := rfl

theorem dropAfter_break (s : List Char) :
    dropAfter false ('\n' :: s) = '\n' :: dropAfter false (Text.trimStart s) := by
  rw [← dropAfter_true]
  rfl

theorem dropAfter_cons (hc : (c == '\n') = false) (s : List Char) :
    dropAfter false (c :: s) = c :: dropAfter false s := by
  rw [dropAfter, hc, if_neg Bool.false_ne_true, ite_self]

/-- A line break with white space after it becomes the line break. -/
theorem dropAfter_eq_replaceAll (s : List Char) :
    dropAfter false s = afterBreak.replaceAll ['\n'] s := by
  refine Pattern.eq_replaceAll rfl (fun s rest h => ?_) (fun c s h => ?_) s
  · cases s with
    | nil => cases h
    | cons c s =>
      rw [match?_afterBreak] at h
      split at h
      · next hc =>
        rw [beq_iff_eq.mp hc, dropAfter_break, Text.trimStart, dropWhile_of_matchParts?_many h]
        rfl
      · cases h
  · rw [match?_afterBreak] at h
    split at h
    · next hc =>
      rw [beq_iff_eq.mp hc, dropAfter_break, Text.trimStart, dropWhile_of_matchParts?_many_none h]
    · next hc => exact dropAfter_cons (Bool.eq_false_iff.mpr hc) s

/-- Normalization replaces the three patterns one after the other, and trims the text. -/
theorem normalize_eq_replaceAll (s : List Char) : normalize s =
    Text.trim (afterBreak.replaceAll ['\n']
      (beforeBreak.replaceAll ['\n'] (horizontalRun.replaceAll [' '] s))) := by
  rw [normalize, collapse_eq_replaceAll, dropBefore_eq_replaceAll, dropAfter_eq_replaceAll]

end ConditionalTemplate.Normalization
