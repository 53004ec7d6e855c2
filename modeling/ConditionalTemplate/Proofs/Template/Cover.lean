import ConditionalTemplate.Proofs.Offset.Resolution
import ConditionalTemplate.Proofs.Template.PresenceGrammar
import Mathlib.Data.List.Chain

/-!
# The cover of a template by its segments

The segments of a scan cover the template without gaps and overlaps, and every span of them and of
the parts of a block has its bounds between characters (`Cover`). The parts of a block stand in
order, with room for the tags between them (`ConditionSpans.Laid`, `PresenceSpans.Laid`). So a scan
and a pass that work on offsets never cut a text where it cannot be cut (`spans_cover`).
-/

namespace ConditionalTemplate

open Text (width IsPosition)

variable {β γ : Type}

/-- The span of a segment, where `whole` gives that of a block. -/
def Segment.span (whole : γ → Span) : Segment Span γ → Span
  | .literal x => x
  | .block g => whole g

/-- The spans of a segment and of its parts. -/
def Segment.spans (parts : γ → List Span) : Segment Span γ → List Span
  | .literal x => [x]
  | .block g => parts g

def Segment.IsLiteral : Segment Span γ → Prop
  | .literal _ => True
  | .block _ => False

def ConditionSpans.parts (g : ConditionSpans) : List Span :=
  g.whole :: g.condition :: g.body :: g.otherwise.toList

def PresenceSpans.parts (g : PresenceSpans) : List Span :=
  [g.whole, g.first, g.second, g.body]

/-- The parts stand in order: `{{#if` and white space before the condition, `}}` after it, and
before the end either `{{#else}}`, a body and `{{/if}}`, or `{{/if}}` alone. -/
def ConditionSpans.Laid (g : ConditionSpans) : Prop :=
  g.whole.start + 5 < g.condition.start ∧ g.condition.start ≤ g.condition.stop ∧
    g.condition.stop + 2 ≤ g.body.start ∧ g.body.start ≤ g.body.stop ∧
    ((∃ x, g.otherwise = some x ∧ x.start = g.body.stop + 9 ∧ x.stop + 7 = g.whole.stop) ∨
      (g.otherwise = none ∧ g.body.stop + 7 = g.whole.stop))

/-- The parts stand in order: `{{#between` and white space before the names, `}}` right after them,
and `{{/between}}` after the body. -/
def PresenceSpans.Laid (g : PresenceSpans) : Prop :=
  g.whole.start + 10 < g.first.start ∧ g.first.start < g.first.stop ∧
    g.first.stop < g.second.start ∧ g.second.start < g.second.stop ∧
    g.body.start = g.second.stop + 2 ∧ g.body.stop + 12 = g.whole.stop

namespace Template

/-- Spans one after the other, none of them empty, from `start` to `stop`. -/
def Tiles : Nat → Nat → List Span → Prop
  | start, stop, [] => start = stop
  | start, stop, x :: rest => x.start = start ∧ x.start < x.stop ∧ Tiles x.stop stop rest

/-- The segments make up the text, and every span can be cut out of it. -/
structure Cover (whole : γ → Span) (parts : γ → List Span) (s : List Char)
    (segments : List (Segment Span γ)) : Prop where
  tiles : Tiles 0 (width s) (segments.map (Segment.span whole))
  eq_nil_iff : segments = [] ↔ s = []
  isChain : segments.IsChain fun a b => ¬ (a.IsLiteral ∧ b.IsLiteral)
  slices : ∃ texts, segments.mapM (fun a => (a.span whole).slice? s) = some texts ∧
    texts.flatten = s
  within : ∀ a ∈ segments, ∀ x ∈ a.spans parts, x.Within s ∧ (x.slice? s).isSome

variable {s u v : List Char} {whole : γ → Span} {parts : γ → List Span} {start stop : Nat}

theorem Tiles.le {l : List Span} (h : Tiles start stop l) : start ≤ stop := by
  induction l generalizing start with
  | nil => exact Nat.le_of_eq h
  | cons x rest ih =>
    obtain ⟨rfl, hlt, hrest⟩ := h
    exact Nat.le_trans (Nat.le_of_lt hlt) (ih hrest)

theorem Tiles.eq_nil_iff {l : List Span} (h : Tiles start stop l) : l = [] ↔ start = stop := by
  cases l with
  | nil => exact ⟨fun _ => h, fun _ => rfl⟩
  | cons x rest =>
    obtain ⟨rfl, hlt, hrest⟩ := h
    have := hrest.le
    constructor
    · nofun
    · omega

/-- What the spans cover is the text between their ends. -/
theorem Tiles.slices {l : List (Segment Span γ)}
    (h : Tiles (width u) (width (u ++ v)) (l.map (Segment.span whole)))
    (hl : ∀ a ∈ l, (a.span whole).Within (u ++ v)) :
    ∃ texts, l.mapM (fun a => (a.span whole).slice? (u ++ v)) = some texts ∧
      texts.flatten = v := by
  induction l generalizing u v with
  | nil =>
    have h : width u = width (u ++ v) := h
    rw [Text.width_append] at h
    exact ⟨[], rfl, (Text.width_eq_zero.mp (by omega)).symm⟩
  | cons a rest ih =>
    obtain ⟨hstart, -, hrest⟩ := h
    obtain ⟨t, u', w, he, ha⟩ := (hl a List.mem_cons_self).exists_covers
    rw [ha] at hstart hrest
    obtain ⟨rfl, rfl⟩ := Text.append_inj_of_width he.symm hstart
    have hstop : (Span.ofText (width u') t).stop = width (u' ++ t) := (Text.width_append u' t).symm
    rw [hstop, ← List.append_assoc] at hrest
    obtain ⟨texts, hm, hf⟩ := ih hrest fun b hb => by
      rw [List.append_assoc]
      exact hl b (List.mem_cons_of_mem _ hb)
    simp only [List.append_assoc] at hm
    refine ⟨t :: texts, ?_, by rw [List.flatten_cons, hf]⟩
    rw [List.mapM_cons, ha, Span.slice?_append, hm]
    rfl

theorem isChain_withLiterals (l : List γ) :
    (withLiterals whole stop start l).IsChain fun a b => ¬ (a.IsLiteral ∧ b.IsLiteral) := by
  induction l generalizing start with
  | nil =>
    rw [withLiterals, between]
    split
    · exact .singleton _
    · exact .nil
  | cons g rest ih =>
    have hg : (Segment.block g :: withLiterals whole stop (whole g).stop rest).IsChain
        fun a b => ¬ (a.IsLiteral ∧ b.IsLiteral) :=
      List.isChain_cons.mpr ⟨fun _ _ h => h.1, ih⟩
    rw [withLiterals, between]
    split
    · exact List.isChain_cons.mpr ⟨by rintro _ ⟨⟩ ⟨-, h⟩; exact h, hg⟩
    · exact hg

theorem tiles_between_append {l : List (Segment Span γ)} {mid : Nat} (hle : start ≤ mid)
    (h : Tiles mid stop (l.map (Segment.span whole))) :
    Tiles start stop ((between start mid ++ l).map (Segment.span whole)) := by
  unfold between
  split
  · next hlt => exact ⟨rfl, hlt, h⟩
  · obtain rfl := Nat.le_antisymm hle (Nat.le_of_not_lt ‹_›)
    exact h

theorem eq_literal_of_mem_between {a : Segment Span γ} (h : a ∈ between start stop) :
    a = .literal ⟨start, stop⟩ ∧ start ≤ stop := by
  unfold between at h
  split at h
  · exact ⟨List.mem_singleton.mp h, Nat.le_of_lt ‹_›⟩
  · cases h

theorem eq_block_of_mem_withLiterals {l : List γ} {g : γ}
    (h : .block g ∈ withLiterals whole stop start l) : g ∈ l := by
  induction l generalizing start with
  | nil => cases (eq_literal_of_mem_between h).1
  | cons g' rest ih =>
    rcases List.mem_append.mp h with h | h
    · cases (eq_literal_of_mem_between h).1
    · rcases List.mem_cons.mp h with h | h
      · cases h
        exact List.mem_cons_self
      · exact List.mem_cons_of_mem _ (ih h)

namespace Leftmost

variable {found : Nat → γ → Prop} {l : List γ} {g : γ}

theorem found_of_mem (h : Leftmost found whole start l) (hg : g ∈ l) : ∃ p, found p g := by
  induction h with
  | done _ => cases hg
  | next _ hf _ _ ih =>
    rcases List.mem_cons.mp hg with rfl | hg
    · exact ⟨_, hf⟩
    · exact ih hg

/-- The blocks and the literals around them go on from the start to the end of the text. -/
theorem tiles (h : Leftmost found whole start l)
    (hf : ∀ p g, found p g → (whole g).start = p ∧ p < (whole g).stop ∧ (whole g).Within s)
    (hs : IsPosition s start) :
    Tiles start (width s) ((withLiterals whole (width s) start l).map (Segment.span whole)) := by
  induction h with
  | @done start _ =>
    have htiles : Tiles start (width s) ((between start (width s) ++ []).map (Segment.span whole)) :=
      tiles_between_append hs.le rfl
    rwa [List.append_nil] at htiles
  | @next start p g rest hp hg _ _ ih =>
    obtain ⟨rfl, hlt, hw⟩ := hf p g hg
    exact tiles_between_append hp ⟨rfl, hlt, ih hw.2.2.2⟩

/-- A literal has its bounds at the ends of the text and of blocks. -/
theorem within_of_literal_mem (h : Leftmost found whole start l)
    (hf : ∀ p g, found p g → (whole g).start = p ∧ p < (whole g).stop ∧ (whole g).Within s)
    (hs : IsPosition s start) {x : Span}
    (hx : .literal x ∈ withLiterals whole (width s) start l) : x.Within s := by
  have hend : IsPosition s (width s) := ⟨s, [], (List.append_nil s).symm, rfl⟩
  induction h with
  | done _ =>
    obtain ⟨he, hle⟩ := eq_literal_of_mem_between hx
    cases he
    exact ⟨hle, Nat.le_refl _, hs, hend⟩
  | @next start p g rest hp hg _ _ ih =>
    obtain ⟨rfl, -, -, hstop, hstart, hpos⟩ := hf p g hg
    rcases List.mem_append.mp hx with hx | hx
    · obtain ⟨he, hle⟩ := eq_literal_of_mem_between hx
      cases he
      exact ⟨hle, hstart.le, hs, hstart⟩
    · rcases List.mem_cons.mp hx with hx | hx
      · cases hx
      · exact ih hpos hx

end Leftmost

section Scan

variable [Block β] {place : Nat → β → γ}

/-- What is read at a byte is a block with its span from there on. -/
theorem ReadAt.whole_within (hw : ∀ p b, whole (place p b) = .ofText p (Block.text b)) {p : Nat}
    {g : γ} (h : ReadAt place s p g) :
    (whole g).start = p ∧ p < (whole g).stop ∧ (whole g).Within s := by
  obtain ⟨u, v, b, rest, rfl, rfl, hr, rfl⟩ := h
  have hv := Block.eq_append_of_read? hr
  have hne : Block.text b ≠ [] := by
    intro hn
    have := Block.length_lt_of_read? hr
    rw [hv, hn] at this
    exact Nat.lt_irrefl _ this
  have := Text.width_pos hne
  rw [hw, hv]
  refine ⟨rfl, ?_, (Span.covers_append u (Block.text b) rest).within⟩
  show width u < width u + width (Block.text b)
  omega

theorem cover_locate_scan (hw : ∀ p b, whole (place p b) = .ofText p (Block.text b))
    (hparts : ∀ u b r, ∀ x ∈ parts (place (width u) b), x.Within (u ++ (Block.text b ++ r))) :
    Cover whole parts s (locate place 0 (scan s)) := by
  obtain ⟨l, hl, he⟩ := (locate_scan_eq_iff (s := s) hw fun _ _ => Iff.rfl).mp rfl
  have hfound : ∀ p g, ReadAt place s p g → _ := fun p g => ReadAt.whole_within hw
  have hzero : IsPosition s 0 := ⟨[], s, rfl, rfl⟩
  have htiles := hl.tiles hfound hzero
  have hwithin : ∀ a ∈ withLiterals whole (width s) 0 l, ∀ x ∈ a.spans parts, x.Within s := by
    rintro (y | g) ha x hx
    · rw [List.mem_singleton.mp hx]
      exact hl.within_of_literal_mem hfound hzero ha
    · obtain ⟨p, u, v, b, rest, rfl, rfl, hr, rfl⟩ :=
        hl.found_of_mem (eq_block_of_mem_withLiterals ha)
      rw [Block.eq_append_of_read? hr]
      exact hparts u b rest x hx
  have hspan : ∀ a ∈ withLiterals whole (width s) 0 l, (a.span whole).Within s := by
    rintro (x | g) ha
    · exact hl.within_of_literal_mem hfound hzero ha
    · obtain ⟨p, hp⟩ := hl.found_of_mem (eq_block_of_mem_withLiterals ha)
      exact (hfound p g hp).2.2
  rw [he]
  refine ⟨htiles, ?_, isChain_withLiterals l, Tiles.slices (u := []) htiles hspan,
    fun a ha x hx => ⟨hwithin a ha x hx, Span.slice?_isSome_iff.mpr (hwithin a ha x hx)⟩⟩
  rw [← List.map_eq_nil_iff (f := Segment.span whole), htiles.eq_nil_iff, eq_comm,
    Text.width_eq_zero]

theorem readAt_of_block_mem (whole : γ → Span)
    (hw : ∀ p b, whole (place p b) = .ofText p (Block.text b)) {g : γ}
    (h : .block g ∈ locate place 0 (scan s)) : ∃ p, ReadAt place s p g := by
  obtain ⟨l, hl, he⟩ := (locate_scan_eq_iff (s := s) hw fun _ _ => Iff.rfl).mp rfl
  rw [he] at h
  exact hl.found_of_mem (eq_block_of_mem_withLiterals h)

end Scan

end Template

theorem ConditionBlock.within_of_mem_parts (u : List Char) (b : ConditionBlock) (r : List Char) :
    ∀ x ∈ (b.spans (width u)).parts, x.Within (u ++ (b.text ++ r)) := by
  intro x hx
  simp only [ConditionSpans.parts, List.mem_cons, Option.mem_toList] at hx
  rcases hx with rfl | rfl | rfl | hx
  · exact (b.covers_whole u r).within
  · exact (b.covers_condition u r).within
  · exact (b.covers_body u r).within
  · cases hb : b.otherwise with
    | none => simp [ConditionBlock.spans, hb] at hx
    | some clause =>
      obtain ⟨y, hy, hc⟩ := b.covers_otherwise u r hb
      obtain rfl := Option.some.inj (hx.symm.trans hy)
      exact hc.within

theorem PresenceBlock.within_of_mem_parts (u : List Char) (b : PresenceBlock) (r : List Char) :
    ∀ x ∈ (b.spans (width u)).parts, x.Within (u ++ (b.text ++ r)) := by
  intro x hx
  simp only [PresenceSpans.parts, List.mem_cons, List.not_mem_nil, or_false] at hx
  rcases hx with rfl | rfl | rfl | rfl
  · exact (b.covers_whole u r).within
  · exact (b.covers_first u r).within
  · exact (b.covers_second u r).within
  · exact (b.covers_body u r).within

theorem ConditionForm.laid {s : List Char} {f : ConditionForm} (h : f.Of s) {p : Nat}
    {g : ConditionSpans} (hg : f.Spanned p g) : g.Laid := by
  have ho : width f.opener = 5 := h.opener.width_eq
  have hc : width f.closer = 7 := h.closer.width_eq
  have he : width Template.tagEnd = 2 := by decide
  have hgap := Text.width_pos h.gap_ne_nil
  obtain ⟨e, t, hl, -, -, hcond⟩ := hg.condition
  have hline : width f.line = width e + width t := by rw [hl, Text.width_append]
  have hwhole : g.whole = ⟨p, f.bodyStart p + width f.body + 7⟩ := by
    rw [hg.whole, bodyStart, lineStart]
    simp only [Text.width_append, hc, Nat.add_assoc]
  have hbody : f.bodyStart p = f.lineStart p + width e + width t + 2 := by
    rw [bodyStart, Text.width_append, hline, he, Nat.add_assoc, Nat.add_assoc, Nat.add_assoc]
  have hstart : p + 5 < f.lineStart p := by
    rw [lineStart, Text.width_append, ho]
    omega
  rw [ConditionSpans.Laid, hwhole, hcond]
  rcases hg.bodies with ⟨j, hj, hb, hx⟩ | ⟨-, hb, hx⟩
  · rw [hb, hx]
    have hjw : j + 9 ≤ width f.body := by
      obtain ⟨u, w, v, hd, rfl, hs⟩ := hj.1
      have : width w = 9 := hs.width_eq
      rw [hd, Text.width_append, Text.width_append]
      omega
    refine ⟨hstart, Nat.le_add_right _ _, ?_, Nat.le_add_right _ _, .inl ⟨_, rfl, rfl, rfl⟩⟩
    show f.lineStart p + width e + 2 ≤ f.bodyStart p
    omega
  · rw [hb, hx]
    refine ⟨hstart, Nat.le_add_right _ _, ?_, Nat.le_add_right _ _, .inr ⟨rfl, rfl⟩⟩
    show f.lineStart p + width e + 2 ≤ f.bodyStart p
    omega

theorem PresenceForm.laid {s : List Char} {f : PresenceForm} (h : f.Of s) (p : Nat) :
    (f.spans p).Laid := by
  have ho : width f.opener = 10 := h.opener.width_eq
  have hc : width f.closer = 12 := h.closer.width_eq
  have hgap := Text.width_pos h.gap_ne_nil
  have hfirst := Text.width_pos h.first_ne_nil
  have hseparator := Text.width_pos h.separator_ne_nil
  have hsecond := Text.width_pos h.second_ne_nil
  refine ⟨?_, Nat.lt_add_of_pos_right hfirst, ?_, Nat.lt_add_of_pos_right hsecond, ?_, ?_⟩
  · show p + 10 < p + width (f.opener ++ f.gap)
    rw [Text.width_append]
    omega
  · show f.firstStart p + width f.first < f.firstStart p + width (f.first ++ f.separator)
    rw [Text.width_append]
    omega
  · show f.secondStart p + width (f.second ++ Template.tagEnd) = f.secondStart p + width f.second + 2
    rw [Text.width_append, ← Nat.add_assoc]
    rfl
  · show f.bodyStart p + width f.body + 12 = f.bodyStart p + width (f.body ++ f.closer)
    rw [Text.width_append, hc, Nat.add_assoc]

namespace Template

/-- For every text, both scans give a cover of it with the parts of every block in their order; and
they and both passes, done by offsets, come to their ends without a slice that fails. -/
theorem spans_cover (r : Record) (s : List Char) :
    Cover ConditionSpans.whole ConditionSpans.parts s (conditionSpans s) ∧
      (∀ g, .block g ∈ conditionSpans s → g.Laid) ∧
      Cover PresenceSpans.whole PresenceSpans.parts s (presenceSpans s) ∧
      (∀ g, .block g ∈ presenceSpans s → g.Laid) ∧
      Offset.scanConditions? s = some (conditionSpans s) ∧
      Offset.scanPresences? s = some (presenceSpans s) ∧
      Offset.resolveConditions? r s = some (resolveConditions r s) ∧
      Offset.resolvePresences? r s = some (resolvePresences r s) := by
  refine ⟨cover_locate_scan (fun _ _ => rfl) ConditionBlock.within_of_mem_parts, ?_,
    cover_locate_scan (fun _ _ => rfl) PresenceBlock.within_of_mem_parts, ?_,
    Offset.scanConditions?_eq s, Offset.scanPresences?_eq s, Offset.resolveConditions?_eq r s,
    Offset.resolvePresences?_eq r s⟩
  · intro g hg
    obtain ⟨p, hp⟩ := readAt_of_block_mem ConditionSpans.whole (fun _ _ => rfl) hg
    obtain ⟨u, v, f, -, -, hf, hs⟩ := ConditionForm.readAt_iff.mp hp
    exact ConditionForm.laid hf hs
  · intro g hg
    obtain ⟨p, hp⟩ := readAt_of_block_mem PresenceSpans.whole (fun _ _ => rfl) hg
    obtain ⟨u, v, f, -, -, hf, rfl⟩ := PresenceForm.readAt_iff.mp hp
    exact PresenceForm.laid hf p

end Template

end ConditionalTemplate
