/-!
# Patterns

A pattern is a row of parts, each of them one character of a class or a run of such characters. A
run takes as many as it can and gives some back only where the rest of the pattern would not match
otherwise. Matches are replaced from left to right, the next one being looked for behind the last.
-/

namespace ConditionalTemplate.Text

/-- A part of a pattern. -/
inductive Pattern.Part where
  /-- One character. -/
  | one (p : Char → Bool)
  /-- At least one character, and as many as possible. -/
  | many (p : Char → Bool)

/-- A pattern has at least one part. -/
structure Pattern where
  first : Pattern.Part
  others : List Pattern.Part := []

namespace Pattern

/-- What is behind the match of a row of parts at the front of a text, if there is one. -/
def matchParts? : List Part → List Char → Option (List Char)
  | [], s => some s
  | _ :: _, [] => none
  | .one p :: parts, c :: s => if p c then matchParts? parts s else none
  | .many p :: parts, c :: s =>
    if p c then (matchParts? (.many p :: parts) s).or (matchParts? parts s) else none

/-- What is behind the match of a pattern at the front of a text, if there is one. -/
def match? (pattern : Pattern) (s : List Char) : Option (List Char) :=
  matchParts? (pattern.first :: pattern.others) s

theorem length_le_of_matchParts? {parts : List Part} {s rest : List Char}
    (h : matchParts? parts s = some rest) : rest.length ≤ s.length := by
  fun_induction matchParts? parts s with
  | case1 s => exact Nat.le_of_eq (congrArg List.length (Option.some.inj h).symm)
  | case2 | case4 | case6 => cases h
  | case3 p parts c s _ ih => exact Nat.le_succ_of_le (ih h)
  | case5 p parts c s _ ihmore ih =>
    rcases Option.or_eq_some_iff.mp h with h | ⟨-, h⟩
    · exact Nat.le_succ_of_le (ihmore h)
    · exact Nat.le_succ_of_le (ih h)

/-- A match takes at least one character. -/
theorem length_lt_of_match? {pattern : Pattern} {s rest : List Char}
    (h : pattern.match? s = some rest) : rest.length < s.length := by
  obtain ⟨first, others⟩ := pattern
  cases s with
  | nil => cases h
  | cons c s =>
    refine Nat.lt_succ_of_le ?_
    rw [match?] at h
    cases first with
    | one p =>
      rw [matchParts?] at h
      split at h
      · exact length_le_of_matchParts? h
      · cases h
    | many p =>
      rw [matchParts?] at h
      split at h
      · rcases Option.or_eq_some_iff.mp h with h | ⟨-, h⟩
        · exact length_le_of_matchParts? h
        · exact length_le_of_matchParts? h
      · cases h

/-- The text with every match replaced. -/
def replaceAll (pattern : Pattern) (replacement : List Char) : List Char → List Char
  | [] => []
  | c :: s =>
    match h : pattern.match? (c :: s) with
    | some rest =>
      have := length_lt_of_match? h
      replacement ++ replaceAll pattern replacement rest
    | none => c :: replaceAll pattern replacement s
termination_by s => s.length
decreasing_by
  · assumption
  · exact Nat.lt_succ_self _

/-- What takes every match at the front of a text for its replacement, and leaves a character alone
where there is no match, replaces all matches. -/
theorem eq_replaceAll {pattern : Pattern} {replacement : List Char} {f : List Char → List Char}
    (hnil : f [] = [])
    (hmatch : ∀ s rest, pattern.match? s = some rest → f s = replacement ++ f rest)
    (hskip : ∀ c s, pattern.match? (c :: s) = none → f (c :: s) = c :: f s) (s : List Char) :
    f s = pattern.replaceAll replacement s := by
  fun_induction replaceAll pattern replacement s with
  | case1 => exact hnil
  | case2 c s rest h _ ih => rw [hmatch _ _ h, ih]
  | case3 c s h ih => rw [hskip _ _ h, ih]

end Pattern

end ConditionalTemplate.Text
