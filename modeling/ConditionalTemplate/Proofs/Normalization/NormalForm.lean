import ConditionalTemplate.Proofs.Normalization.Characters
import ConditionalTemplate.Proofs.Text.Trimming

/-!
# The normal form of white space

What normalization makes of a text is in normal form (`isNormal_normalize`), and a text in normal
form is left as it is, because every step leaves it (`collapse_eq_self`, `dropBefore_eq_self`,
`dropAfter_eq_self`). So the normal forms are the texts that normalization does not change, and a
second run changes nothing (`normalize_eq_self_iff`).
-/

namespace ConditionalTemplate.Normalization

open Text (isBlank)

variable {s : List Char} {inRun : Bool}

/-- No white space in front of a line break. -/
def ClearBefore (a b : Char) : Prop :=
  b = '\n' → isBlank a = false

/-- No white space behind a line break. -/
def ClearAfter (a b : Char) : Prop :=
  a = '\n' → isBlank b = false

/-- No tab, no two spaces side by side, no white space next to a line break or at an end. -/
structure IsNormal (s : List Char) : Prop where
  noTab : '\t' ∉ s
  single : s.IsChain NotBothSpaces
  before : s.IsChain ClearBefore
  after : s.IsChain ClearAfter
  head : ∀ c ∈ s.head?, isBlank c = false
  last : ∀ c ∈ s.getLast?, isBlank c = false

/-! ### The result is in normal form -/

theorem reachesBreak_of_mem_head? (h : '\n' ∈ (dropBefore s).head?) : reachesBreak s = true := by
  cases s with
  | nil => cases h
  | cons c s =>
    rw [dropBefore] at h
    split at h
    · next hc => simp_all [reachesBreak]
    · cases h
      rfl

theorem isChain_clearBefore (s : List Char) : (dropBefore s).IsChain ClearBefore := by
  induction s with
  | nil => exact .nil
  | cons c s ih =>
    rw [dropBefore]
    split
    · exact ih
    · next hkept =>
      refine List.isChain_cons.mpr ⟨?_, ih⟩
      rintro _ hhead rfl
      have hreach := reachesBreak_of_mem_head? hhead
      simpa [hreach] using hkept

theorem head?_dropAfter {c : Char} (h : c ∈ (dropAfter true s).head?) : isBlank c = false := by
  induction s with
  | nil => cases h
  | cons x s ih =>
    by_cases hx : isBlank x = true
    · rw [dropAfter, if_pos hx, if_pos rfl] at h
      exact ih h
    · rw [dropAfter, if_neg hx] at h
      cases h
      simpa using hx

theorem isChain_clearAfter (inRun : Bool) (s : List Char) :
    (dropAfter inRun s).IsChain ClearAfter := by
  fun_induction dropAfter inRun s with
  | case1 => exact .nil
  | case2 c s _ ih => exact ih
  | case3 inRun c s _ _ ih =>
    refine List.isChain_cons.mpr ⟨?_, ih⟩
    rintro b hb rfl
    exact head?_dropAfter hb
  | case4 inRun c s hc ih =>
    refine List.isChain_cons.mpr ⟨?_, ih⟩
    rintro b _ rfl
    exact absurd rfl hc

/-- The third step may bring white space in front of a line break, but only a line break, and then
there is white space behind one. -/
theorem isChain_clearBefore_dropAfter (s : List Char) :
    (dropAfter false (dropBefore s)).IsChain ClearBefore := by
  have hbreak : ∀ b, '\n' = '\n' ∨ ClearBefore '\n' b := fun _ => .inl rfl
  have hweak : (dropBefore s).IsChain fun a b => a = '\n' ∨ ClearBefore a b :=
    (isChain_clearBefore s).imp fun _ _ => .inr
  have hbefore := List.isChain_iff_getElem.mp (isChain_dropAfter hbreak hweak)
  have hafter := List.isChain_iff_getElem.mp (isChain_clearAfter false (dropBefore s))
  refine List.isChain_iff_getElem.mpr fun i hi hnext => ?_
  rcases hbefore i hi with hprev | hclear
  · have hblank := hafter i hi hprev
    rw [hnext] at hblank
    cases hblank
  · exact hclear hnext

theorem isNormal_normalize (s : List Char) : IsNormal (normalize s) where
  noTab htab := by cases eq_space_of_mem_normalize htab rfl
  single := isChain_normalize s
  before := by
    have hchain := isChain_clearBefore_dropAfter (collapse false s)
    exact hchain.infix (isInfix_trim _)
  after := by
    have hchain := isChain_clearAfter false (dropBefore (collapse false s))
    exact hchain.infix (isInfix_trim _)
  head _ hc := Text.eq_false_of_mem_head?_dropWhile (Text.head?_trimEnd hc)
  last _ hc := Text.isBlank_of_mem_getLast?_trimEnd hc

/-! ### A normal form stays as it is -/

theorem collapse_eq_self (htab : '\t' ∉ s) (hs : s.IsChain NotBothSpaces)
    (hrun : inRun = true → ' ' ∉ s.head?) : collapse inRun s = s := by
  induction s generalizing inRun with
  | nil => rfl
  | cons c s ih =>
    obtain ⟨hc, hrest⟩ := List.isChain_cons.mp hs
    obtain ⟨hctab, hstab⟩ := not_or.mp (mt List.mem_cons.mpr htab)
    rw [collapse]
    split
    · next hspace =>
      have hc' : c = ' ' := by simpa [isSpaceOrTab, Ne.symm hctab] using hspace
      subst hc'
      have hs' : collapse true s = s := ih hstab hrest fun _ hhead => hc _ hhead ⟨rfl, rfl⟩
      cases inRun with
      | true => exact absurd rfl (hrun rfl)
      | false => rw [if_neg (by decide), hs']
    · rw [ih hstab hrest (fun h => Bool.noConfusion h)]

theorem reachesBreak_eq_false {c : Char} (hc : isBlank c = true)
    (hs : (c :: s).IsChain ClearBefore) : reachesBreak s = false := by
  induction s generalizing c with
  | nil => rfl
  | cons d s ih =>
    obtain ⟨hcd, hs⟩ := List.isChain_cons_cons.mp hs
    have hbreak : d ≠ '\n' := fun hd => by cases hc.symm.trans (hcd hd)
    rw [reachesBreak, beq_eq_false_iff_ne.mpr hbreak, Bool.false_or]
    cases hd : isBlank d with
    | true => exact ih hd hs
    | false => rfl

theorem dropBefore_eq_self (hs : s.IsChain ClearBefore) : dropBefore s = s := by
  induction s with
  | nil => rfl
  | cons c s ih =>
    have hkept : ¬(isBlank c && reachesBreak s) = true := by
      rw [Bool.and_eq_true]
      rintro ⟨hc, hreach⟩
      cases hreach.symm.trans (reachesBreak_eq_false hc hs)
    rw [dropBefore, if_neg hkept, ih hs.tail]

theorem dropAfter_eq_self (hs : s.IsChain ClearAfter)
    (hrun : inRun = true → ∀ c ∈ s.head?, isBlank c = false) : dropAfter inRun s = s := by
  induction s generalizing inRun with
  | nil => rfl
  | cons c s ih =>
    obtain ⟨hc, hs⟩ := List.isChain_cons.mp hs
    rw [dropAfter]
    split
    · next hblank =>
      have hrun' : inRun ≠ true := fun h => by cases hblank.symm.trans (hrun h c rfl)
      rw [if_neg hrun', ih hs fun hbreak d hd => hc d hd (beq_iff_eq.mp hbreak)]
    · rw [ih hs (fun h => Bool.noConfusion h)]

theorem IsNormal.normalize_eq (h : IsNormal s) : normalize s = s := by
  have hrun {P : Prop} : false = true → P := fun h => Bool.noConfusion h
  rw [normalize, collapse_eq_self h.noTab h.single hrun, dropBefore_eq_self h.before,
    dropAfter_eq_self h.after hrun, Text.trim_eq_self h.head h.last]

/-- The normal forms are the texts that normalization leaves as they are, and normalizing twice is
normalizing once. -/
theorem normalize_eq_self_iff (s : List Char) :
    normalize (normalize s) = normalize s ∧ (normalize s = s ↔ IsNormal s) := by
  refine ⟨(isNormal_normalize s).normalize_eq, ?_, IsNormal.normalize_eq⟩
  intro h
  exact h ▸ isNormal_normalize s

end ConditionalTemplate.Normalization
