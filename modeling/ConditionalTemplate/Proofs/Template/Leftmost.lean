import ConditionalTemplate.Proofs.Text.Position
import ConditionalTemplate.Template.Span

/-!
# Scanning takes the leftmost blocks

`Leftmost found whole start blocks`: the search from `start` on takes the first finding, goes on at
its end, and so forth. The located segments of a scan are the leftmost blocks that can be read,
with literals in all the gaps (`locate_scan_eq_iff`); what can be read at a position is a parameter
of the search, so that a grammar may stand for the reader.
-/

namespace ConditionalTemplate.Template

variable {β γ : Type}

/-- The findings of a search: the first one from `start` on, then from its end on. -/
inductive Leftmost (found : Nat → γ → Prop) (whole : γ → Span) : Nat → List γ → Prop where
  | done {start : Nat} (h : ∀ p g, start ≤ p → ¬ found p g) : Leftmost found whole start []
  | next {start p : Nat} {g : γ} {rest : List γ} (hp : start ≤ p) (hg : found p g)
      (hfirst : ∀ q g', start ≤ q → q < p → ¬ found q g')
      (hrest : Leftmost found whole (whole g).stop rest) : Leftmost found whole start (g :: rest)

/-- The literal from one position to another one, if there is anything between them. -/
def between (start stop : Nat) : List (Segment Span γ) :=
  if start < stop then [.literal ⟨start, stop⟩] else []

/-- Blocks and the literals around them, from `start` to `stop`. -/
def withLiterals (whole : γ → Span) (stop : Nat) : Nat → List γ → List (Segment Span γ)
  | start, [] => between start stop
  | start, g :: rest =>
    between start (whole g).start ++ .block g :: withLiterals whole stop (whole g).stop rest

namespace Leftmost

variable {found found' : Nat → γ → Prop} {whole : γ → Span} {start start' : Nat} {l l' : List γ}

theorem congr (h : Leftmost found whole start l) (hf : ∀ p g, found p g ↔ found' p g) :
    Leftmost found' whole start l := by
  induction h with
  | done h => exact .done fun p g hp hg => h p g hp ((hf p g).mpr hg)
  | next hp hg hfirst _ ih =>
    exact .next hp ((hf _ _).mp hg) (fun q g' hq hlt hg' => hfirst q g' hq hlt ((hf q g').mpr hg')) ih

/-- Nothing is missed by an earlier start if nothing is found before the old one. -/
theorem earlier (h : Leftmost found whole start' l) (hs : start ≤ start')
    (hnone : ∀ p g, start ≤ p → p < start' → ¬ found p g) : Leftmost found whole start l := by
  have hnone' : ∀ {q p : Nat}, (∀ r g', start' ≤ r → r < p → ¬ found r g') → ∀ g', start ≤ q →
      q < p → ¬ found q g' := by
    intro q p hfirst g' hq hlt
    rcases Nat.lt_or_ge q start' with hlt' | hge
    · exact hnone q g' hq hlt'
    · exact hfirst q g' hge hlt
  cases h with
  | done h =>
    refine .done fun p g hp => ?_
    exact hnone' (p := p + 1) (fun r g' hr _ => h r g' hr) g hp (Nat.lt_succ_self p)
  | next hp hg hfirst hrest =>
    exact .next (Nat.le_trans hs hp) hg (fun q g' => hnone' hfirst g') hrest

/-- A search with at most one finding at a position has one outcome. -/
theorem unique (hf : ∀ p g g', found p g → found p g' → g = g') (h : Leftmost found whole start l)
    (h' : Leftmost found whole start l') : l = l' := by
  induction h generalizing l' with
  | done h =>
    cases h' with
    | done _ => rfl
    | next hp hg _ _ => exact absurd hg (h _ _ hp)
  | @next start p g rest hp hg hfirst _ ih =>
    cases h' with
    | done h => exact absurd hg (h _ _ hp)
    | @next _ p' g' rest' hp' hg' hfirst' hrest' =>
      have hpp : p = p' := by
        rcases Nat.lt_trichotomy p p' with hlt | heq | hlt
        · exact absurd hg (hfirst' p g hp hlt)
        · exact heq
        · exact absurd hg' (hfirst p' g' hp' hlt)
      subst hpp
      obtain rfl := hf p g g' hg hg'
      rw [ih hrest']

/-- The first finding does not begin before the search. -/
theorem start_le (h : Leftmost found whole start l) (hw : ∀ p g, found p g → (whole g).start = p) :
    ∀ g ∈ l.head?, start ≤ (whole g).start := by
  cases h with
  | done _ => simp
  | next hp hg _ _ => simpa [hw _ _ hg] using hp

end Leftmost

section Scan

variable [Block β] {place : Nat → β → γ} {whole : γ → Span} {s u v rest : List Char} {b : β}

/-- `g` is the place of a block that can be read at the position. -/
def ReadAt (place : Nat → β → γ) (s : List Char) (p : Nat) (g : γ) : Prop :=
  ∃ u v b rest, s = u ++ v ∧ Text.width u = p ∧ Block.read? v = some (b, rest) ∧ g = place p b

theorem read?_nil : Block.read? (β := β) [] = none := by
  cases h : Block.read? (β := β) [] with
  | none => rfl
  | some x => exact absurd (Block.length_lt_of_read? h) (Nat.not_lt_zero _)

theorem scan_cons_of_read? {c : Char} (h : Block.read? (c :: s) = some (b, rest)) :
    scan (c :: s) = .block b :: scan rest := by
  rw [scan]
  split
  · next b' rest' h' =>
    obtain ⟨rfl, rfl⟩ := Prod.mk.inj (Option.some.inj (h.symm.trans h'))
    rfl
  · next h' => cases h.symm.trans h'

theorem scan_cons_of_read?_eq_none {c : Char} (h : Block.read? (β := β) (c :: s) = none) :
    (scan (c :: s) : Segments β) = consLiteral c (scan s) := by
  rw [scan]
  split
  · next h' => cases h.symm.trans h'
  · rfl

theorem ReadAt.unique {p : Nat} {g g' : γ} (h : ReadAt place s p g) (h' : ReadAt place s p g') :
    g = g' := by
  obtain ⟨u, v, b, r, rfl, hu, hr, rfl⟩ := h
  obtain ⟨u', v', b', r', he, hu', hr', rfl⟩ := h'
  obtain ⟨-, rfl⟩ := Text.append_inj_of_width he (hu.trans hu'.symm)
  rw [hr] at hr'
  rw [(Prod.mk.inj (Option.some.inj hr')).1]

/-- Below the end of its first character a text can only be read at its beginning. -/
theorem ReadAt.eq_width {c : Char} {p : Nat} {g : γ} (h : ReadAt place (u ++ c :: v) p g)
    (hp : Text.width u ≤ p) (hlt : p < Text.width u + c.utf8Size) : p = Text.width u := by
  obtain ⟨u', v', -, -, he, rfl, -, -⟩ := h
  obtain ⟨t, rfl, ht⟩ := Text.exists_append_of_width_le he hp
  cases t with
  | nil => rw [List.append_nil]
  | cons d t =>
    obtain ⟨rfl, -⟩ := List.cons.inj ht
    simp only [Text.width_append, Text.width_cons] at hlt
    omega

/-- Moves the beginning of the first literal, which stands there or is put there. -/
def widen (start stop : Nat) : List (Segment Span γ) → List (Segment Span γ)
  | .literal x :: rest => .literal ⟨start, x.stop⟩ :: rest
  | rest => .literal ⟨start, stop⟩ :: rest

theorem locate_consLiteral (c : Char) (start : Nat) (segments : Segments β) :
    locate place start (consLiteral c segments) =
      widen start (start + c.utf8Size) (locate place (start + c.utf8Size) segments) := by
  match segments with
  | [] => rfl
  | .literal t :: rest =>
    show _ :: locate place (start + (c.utf8Size + Text.width t)) rest = _
    rw [← Nat.add_assoc]
    show (_ : Segment Span γ) :: _ = .literal ⟨start, start + c.utf8Size + Text.width t⟩ :: _
    rw [Nat.add_assoc]
    rfl
  | .block b :: rest => rfl

theorem widen_between_append {start mid stop : Nat} {rest : List (Segment Span γ)} (hs : start < mid)
    (hm : mid ≤ stop) (hr : ∀ x, rest.head? ≠ some (.literal x)) :
    widen start mid (between mid stop ++ rest) = between start stop ++ rest := by
  unfold between
  rw [if_pos (Nat.lt_of_lt_of_le hs hm)]
  split
  · rfl
  · obtain rfl := Nat.le_antisymm hm (Nat.le_of_not_lt ‹_›)
    match rest with
    | [] => rfl
    | .literal x :: _ => exact absurd rfl (hr x)
    | .block _ :: _ => rfl

theorem widen_withLiterals {start mid stop : Nat} {l : List γ} (hs : start < mid) (hm : mid ≤ stop)
    (hl : ∀ g ∈ l.head?, mid ≤ (whole g).start) :
    widen start mid (withLiterals whole stop mid l) = withLiterals whole stop start l := by
  cases l with
  | nil =>
    have h : widen start mid (between mid stop ++ ([] : List (Segment Span γ))) =
        between start stop ++ [] := widen_between_append hs hm (by simp)
    simpa [withLiterals] using h
  | cons g rest => exact widen_between_append hs (hl g rfl) (by simp)

/-- Scanning what is left of a text finds the leftmost blocks of the text from there on. -/
theorem exists_leftmost_of_scan (hw : ∀ p b, whole (place p b) = .ofText p (Block.text b))
    (u v : List Char) :
    ∃ l, Leftmost (ReadAt place (u ++ v)) whole (Text.width u) l ∧
      locate place (Text.width u) (scan v) =
        withLiterals whole (Text.width (u ++ v)) (Text.width u) l := by
  have hstart : ∀ {s : List Char} p g, ReadAt place s p g → (whole g).start = p := by
    rintro s p g ⟨-, -, b, -, -, -, -, rfl⟩
    rw [hw]
    rfl
  fun_induction scan (β := β) v generalizing u with
  | case1 =>
    refine ⟨[], .done fun p g hp hg => ?_, ?_⟩
    · obtain ⟨u', v', b, r, he, rfl, hr, -⟩ := hg
      obtain ⟨t, -, ht⟩ := Text.exists_append_of_width_le he hp
      obtain ⟨rfl, rfl⟩ := List.append_eq_nil_iff.mp ht.symm
      rw [read?_nil] at hr
      cases hr
    · rw [List.append_nil, withLiterals, between, if_neg (Nat.lt_irrefl _)]
      rfl
  | case2 c v b rest h _ ih =>
    have hv := Block.eq_append_of_read? h
    obtain ⟨l, hl, he⟩ := ih (u ++ Block.text b)
    rw [List.append_assoc, ← hv] at hl he
    have hstop : (whole (place (Text.width u) b)).stop = Text.width (u ++ Block.text b) := by
      rw [hw, Text.width_append]
      rfl
    refine ⟨place (Text.width u) b :: l, ?_, ?_⟩
    · refine .next (Nat.le_refl _) ⟨u, c :: v, b, rest, rfl, rfl, h, rfl⟩
        (fun q g' hq hlt _ => absurd hlt (Nat.not_lt.mpr hq)) ?_
      rw [hstop]
      exact hl
    · rw [locate, ← Text.width_append, he, withLiterals, hstop, hw]
      show _ = between (Text.width u) (Text.width u) ++ _
      rw [between, if_neg (Nat.lt_irrefl _)]
      rfl
  | case3 c v h ih =>
    obtain ⟨l, hl, he⟩ := ih (u ++ [c])
    have hwc : Text.width (u ++ [c]) = Text.width u + c.utf8Size := by simp
    have hc : 0 < c.utf8Size := c.utf8Size_pos
    rw [List.append_assoc, List.singleton_append, hwc] at hl he
    refine ⟨l, hl.earlier (Nat.le_add_right _ _) ?_, ?_⟩
    · intro p g hp hlt hg
      have hpu := hg.eq_width hp hlt
      obtain ⟨u', v', b, r, hs, rfl, hr, -⟩ := hg
      obtain ⟨rfl, rfl⟩ := Text.append_inj_of_width hs hpu.symm
      rw [h] at hr
      cases hr
    · have hend : Text.width u + c.utf8Size ≤ Text.width (u ++ c :: v) := by
        simp only [Text.width_append, Text.width_cons]
        omega
      rw [locate_consLiteral, he, widen_withLiterals (by omega) hend (hl.start_le hstart)]

/-- A list of located segments is that of the scan exactly if its blocks are the leftmost ones that
are found where a block can be read, and its literals are what is between them. -/
theorem locate_scan_eq_iff {found : Nat → γ → Prop}
    (hw : ∀ p b, whole (place p b) = .ofText p (Block.text b))
    (hf : ∀ p g, ReadAt place s p g ↔ found p g) {segments : List (Segment Span γ)} :
    locate place 0 (scan s) = segments ↔
      ∃ l, Leftmost found whole 0 l ∧ segments = withLiterals whole (Text.width s) 0 l := by
  obtain ⟨l, hl, he⟩ := exists_leftmost_of_scan hw [] s
  rw [List.nil_append, Text.width_nil] at hl he
  constructor
  · rintro rfl
    exact ⟨l, hl.congr hf, he⟩
  · rintro ⟨l', hl', rfl⟩
    have hl'' := hl'.congr fun p g => (hf p g).symm
    obtain rfl := hl.unique (fun _ _ _ hg hg' => hg.unique hg') hl''
    exact he

end Scan

end ConditionalTemplate.Template
