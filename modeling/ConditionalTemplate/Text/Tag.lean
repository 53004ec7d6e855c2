/-!
# Tags

A tag is a fixed ASCII text that a template may write in any letter case. `read? tag s` takes a tag
from the front of `s`; `cut? tag s` finds its first occurrence and gives the text before it, the
tag as written, and the text after it.
-/

namespace ConditionalTemplate.Text.Tag

/-- Equality up to the case of ASCII letters. -/
def sameLetter (a b : Char) : Bool :=
  a.toLower == b.toLower

/-- The tag as `s` writes it, and what follows it. -/
def read? : (tag s : List Char) → Option (List Char × List Char)
  | [], s => some ([], s)
  | _ :: _, [] => none
  | t :: tag, c :: s =>
    if sameLetter t c then (read? tag s).map fun (written, rest) => (c :: written, rest) else none

/-- A text cut at a tag. -/
structure Cut where
  before : List Char
  written : List Char
  after : List Char

/-- Cuts the text at the first occurrence of the tag. -/
def cut? (tag : List Char) : List Char → Option Cut
  | [] => (read? tag []).map fun (written, rest) => ⟨[], written, rest⟩
  | c :: s =>
    match read? tag (c :: s) with
    | some (written, rest) => some ⟨[], written, rest⟩
    | none => (cut? tag s).map fun cut => { cut with before := c :: cut.before }

theorem toNat_toLower (c : Char) :
    c.toLower.toNat = if 65 ≤ c.toNat ∧ c.toNat ≤ 90 then c.toNat + 32 else c.toNat := by
  unfold Char.toLower
  split
  · next hc =>
    have hc : 65 ≤ c.toNat ∧ c.toNat ≤ 90 := by simpa [UInt32.le_iff_toNat_le] using hc
    rw [if_pos hc]
    have : (c.val + 32).toNat = c.val.toNat + 32 := by
      rw [UInt32.toNat_add]
      have : c.val.toNat ≤ 90 := hc.2
      simp only [UInt32.reduceToNat]
      omega
    exact this
  · next hc =>
    have hc : ¬ (65 ≤ c.toNat ∧ c.toNat ≤ 90) := by simpa [UInt32.le_iff_toNat_le] using hc
    rw [if_neg hc]

/-- A character that is no letter is written in one way only. -/
theorem eq_of_sameLetter {a b : Char} (ha : a.isAlpha = false) (h : sameLetter a b = true) :
    b = a := by
  have hne : ¬ (97 ≤ a.toNat ∧ a.toNat ≤ 122) ∧ ¬ (65 ≤ a.toNat ∧ a.toNat ≤ 90) := by
    delta Char.isAlpha Char.isUpper Char.isLower at ha
    simp [UInt32.le_iff_toNat_le] at ha
    omega
  have h := congrArg Char.toNat (beq_iff_eq.mp h)
  rw [toNat_toLower, toNat_toLower, if_neg hne.2] at h
  refine Char.toNat_inj.mp ?_
  split at h <;> omega

theorem eq_append_of_read? {tag s written rest : List Char}
    (h : read? tag s = some (written, rest)) :
    s = written ++ rest ∧ written.length = tag.length := by
  fun_induction read? tag s generalizing written with
  | case1 s => simp_all
  | case2 => cases h
  | case3 t tag c s _ ih =>
    obtain ⟨⟨w, r⟩, hw, he⟩ := Option.map_eq_some_iff.mp h
    obtain ⟨rfl, rfl⟩ := Prod.mk.inj he
    obtain ⟨rfl, hl⟩ := ih hw
    simp [hl]
  | case4 => cases h

/-- A tag without letters is written in one way only. -/
theorem eq_of_read? {tag s written rest : List Char} (ht : ∀ c ∈ tag, c.isAlpha = false)
    (h : read? tag s = some (written, rest)) : written = tag := by
  fun_induction read? tag s generalizing written with
  | case1 s => simp_all
  | case2 => cases h
  | case3 t tag c s hc ih =>
    obtain ⟨⟨w, r⟩, hw, he⟩ := Option.map_eq_some_iff.mp h
    obtain ⟨rfl, rfl⟩ := Prod.mk.inj he
    rw [ih (fun c hc => ht c (List.mem_cons_of_mem _ hc)) hw,
      eq_of_sameLetter (ht t List.mem_cons_self) hc]
  | case4 => cases h

theorem Cut.read?_eq {tag s : List Char} {cut : Cut} (h : cut? tag s = some cut) :
    read? tag (cut.written ++ cut.after) = some (cut.written, cut.after) := by
  induction s generalizing cut with
  | nil =>
    obtain ⟨⟨w, r⟩, hw, rfl⟩ := Option.map_eq_some_iff.mp h
    rw [← (eq_append_of_read? hw).1, hw]
  | cons c s ih =>
    simp only [cut?] at h
    split at h
    · next w r hw =>
      obtain rfl := Option.some.inj h
      rw [← (eq_append_of_read? hw).1, hw]
    · obtain ⟨cut', hc, rfl⟩ := Option.map_eq_some_iff.mp h
      exact (ih hc :)

theorem Cut.eq_append {tag s : List Char} {cut : Cut} (h : cut? tag s = some cut) :
    s = cut.before ++ cut.written ++ cut.after := by
  induction s generalizing cut with
  | nil =>
    obtain ⟨⟨w, r⟩, hw, rfl⟩ := Option.map_eq_some_iff.mp h
    simpa using (eq_append_of_read? hw).1
  | cons c s ih =>
    simp only [cut?] at h
    split at h
    · next w r hw =>
      obtain rfl := Option.some.inj h
      simpa using (eq_append_of_read? hw).1
    · obtain ⟨cut', hc, rfl⟩ := Option.map_eq_some_iff.mp h
      simpa using ih hc

end ConditionalTemplate.Text.Tag
