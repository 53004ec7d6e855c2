import ConditionalTemplate.Proofs.Offset.Block
import ConditionalTemplate.Proofs.Template.Literal
import ConditionalTemplate.Proofs.Template.PresenceGrammar

/-!
# The scan by offsets

One turn of the loop finds the next opener and takes the block there or goes on one byte further
(`Searches.scan?_succ`). By induction on the turns, a run of the loop gives the segments of the scan,
and no search or slice in it fails (`scanConditions?_eq`, `scanPresences?_eq`).
-/

namespace ConditionalTemplate.Offset

open Text (width)
open Template (between prepend prepend_append locate_prepend scan_append_of_read?_eq_none)

section Scan

variable {β γ : Type} {opener s u t v : List Char} {place : Nat → β → γ} {whole : γ → Span}
  {block? : Nat → Option (Option γ)} [Block β]

/-- What the loop needs of the kind of block it searches a text for. -/
structure Searches (opener : List Char) (place : Nat → β → γ) (whole : γ → Span)
    (block? : Nat → Option (Option γ)) (s : List Char) : Prop where
  ascii : Text.Tag.IsAscii opener
  ne_nil : opener ≠ []
  read?_eq_none : ∀ v, Text.Tag.read? opener v = none → Block.read? (β := β) v = none
  whole_place : ∀ p b, whole (place p b) = .ofText p (Block.text b)
  block?_eq : ∀ u v w r, s = u ++ v → Text.Tag.read? opener v = some (w, r) →
    block? (width u) = some ((Block.read? v).map fun x => place (width u) x.1)

namespace Searches

/-- Where the opener does not occur, all is literal. -/
theorem scan_append (h : Searches opener place whole block? s)
    (hn : ∀ j < width t, ¬ Text.Tag.OccursAt opener (t ++ v) j) :
    (Template.scan (t ++ v) : Template.Segments β) = prepend t (Template.scan v) := by
  refine scan_append_of_read?_eq_none fun x c y ht => h.read?_eq_none _ ?_
  have hlt : width x < width t := by
    have := c.utf8Size_pos
    rw [ht, Text.width_append, Text.width_cons]
    omega
  have hx := hn (width x) hlt
  rw [ht, List.append_assoc, List.cons_append] at hx
  refine Classical.not_not.mp fun hr => hx ?_
  exact (Text.Tag.occursAt_append_add (j := 0)).mpr (Text.Tag.occursAt_zero.mpr hr)

theorem scan_of_cut?_eq_none (h : Searches opener place whole block? s)
    (hc : Text.Tag.cut? opener v = none) :
    (Template.scan v : Template.Segments β) = prepend v [] := by
  have hv := h.scan_append (t := v) (v := [])
    fun j _ => by rw [List.append_nil]; exact Text.Tag.cut?_eq_none_iff.mp hc j
  rwa [List.append_nil, Template.scan] at hv

theorem scan_of_cut? (h : Searches opener place whole block? s) {cut : Text.Tag.Cut}
    (hc : Text.Tag.cut? opener v = some cut) : (Template.scan v : Template.Segments β) =
      prepend cut.before (Template.scan (cut.written ++ cut.after)) := by
  obtain ⟨hv, -, hfirst⟩ := Text.Tag.cut?_eq_some_iff.mp hc
  have hs := h.scan_append (t := cut.before) (v := cut.written ++ cut.after)
    fun j hj => by rw [← hv]; exact hfirst.2 j hj
  rwa [← hv] at hs

/-- One turn of the loop: `u` has been cut into segments, `t` is literal, and `v` is still to be
searched. -/
theorem scan?_succ (h : Searches opener place whole block? s) (hs : s = u ++ (t ++ v))
    (turns : Nat) : scan? opener whole block? s (turns + 1) (width u) (width (u ++ t)) =
      match Text.Tag.cut? opener v with
      | none => some (between (width u) (width s))
      | some cut =>
        let here := width (u ++ (t ++ cut.before))
        match Block.read? (β := β) (cut.written ++ cut.after) with
        | some (b, _) =>
          (scan? opener whole block? s turns (here + width (Block.text b))
            (here + width (Block.text b))).map
              fun rest => between (width u) here ++ .block (place here b) :: rest
        | none => scan? opener whole block? s turns (width u) (here + 1) := by
  have hs' : s = u ++ t ++ v := by rw [hs, List.append_assoc]
  rw [scan?, hs', Text.Tag.find?_append h.ascii h.ne_nil, ← hs']
  cases hc : Text.Tag.cut? opener v with
  | none => rfl
  | some cut =>
    obtain ⟨hv, hspell, -⟩ := Text.Tag.cut?_eq_some_iff.mp hc
    have hhere : width (u ++ t) + width cut.before = width (u ++ (t ++ cut.before)) := by
      rw [← Text.width_append, List.append_assoc]
    have hs₁ : s = u ++ (t ++ cut.before) ++ (cut.written ++ cut.after) := by
      rw [hs, hv]
      simp only [List.append_assoc]
    have hb := h.block?_eq _ _ _ _ hs₁ (Text.Tag.read?_append_of_spells hspell cut.after)
    simp only [Option.map_some, Option.bind_eq_bind, Option.bind_some, hhere, hb]
    cases Block.read? (β := β) (cut.written ++ cut.after) with
    | none => rfl
    | some x =>
      obtain ⟨b, rest⟩ := x
      have hstop : ∀ p, (whole (place p b)).stop = p + width (Block.text b) := by
        intro p
        rw [h.whole_place]
        rfl
      simp only [Option.map_some, hstop]
      exact Option.map_eq_bind.symm

/-- A run of the loop, from any of its turns on: every further turn leaves less to be searched. -/
theorem scan?_append (h : Searches opener place whole block? s) {turns : Nat} (u t v : List Char)
    (hs : s = u ++ (t ++ v)) (hv : v.length < turns) :
    scan? opener whole block? s turns (width u) (width (u ++ t)) =
      some (Template.locate place (width u) (prepend t (Template.scan v))) := by
  induction turns generalizing u t v with
  | zero => exact absurd hv (Nat.not_lt_zero _)
  | succ turns ih =>
    rw [h.scan?_succ hs]
    cases hc : Text.Tag.cut? opener v with
    | none =>
      rw [h.scan_of_cut?_eq_none hc, ← prepend_append, locate_prepend _ _ (by simp), hs,
        Text.width_append]
      simp [Template.locate]
    | some cut =>
      obtain ⟨he, hspell, -⟩ := Text.Tag.cut?_eq_some_iff.mp hc
      obtain ⟨c, w, hcw⟩ := List.exists_cons_of_ne_nil (hspell.ne_nil h.ne_nil)
      rw [h.scan_of_cut? hc, ← prepend_append]
      simp only
      rw [he, List.length_append] at hv
      cases hb : Block.read? (β := β) (cut.written ++ cut.after) with
      | some x =>
        obtain ⟨b, rest⟩ := x
        have hlen := Block.length_lt_of_read? hb
        have hs' : s = u ++ (t ++ cut.before) ++ Block.text b ++ ([] ++ rest) := by
          rw [hs, he, Block.eq_append_of_read? hb]
          simp only [List.append_assoc, List.nil_append]
        have ih := ih (u ++ (t ++ cut.before) ++ Block.text b) [] rest hs' (by omega)
        rw [List.append_nil, Text.width_append _ (Block.text b)] at ih
        rw [hcw, List.cons_append] at hb
        rw [hcw, List.cons_append, Template.scan_cons_of_read? hb, locate_prepend _ _ (by simp),
          ← Text.width_append u]
        simp only [ih, Option.map_some]
        rfl
      | none =>
        have hone : width (u ++ (t ++ cut.before)) + 1 = width (u ++ (t ++ cut.before ++ [c])) := by
          rw [hcw] at hspell
          simp only [Text.width_append, Text.width_cons, Text.width_nil,
            hspell.utf8Size_eq_one h.ascii]
          omega
        have hs' : s = u ++ (t ++ cut.before ++ [c] ++ (w ++ cut.after)) := by
          rw [hs, he, hcw]
          simp only [List.append_assoc, List.cons_append, List.nil_append]
        rw [hcw, List.cons_append, List.length_cons] at hv
        rw [hcw, List.cons_append] at hb
        simp only [hone, ih u (t ++ cut.before ++ [c]) (w ++ cut.after) hs' (by omega)]
        rw [hcw, List.cons_append, Template.scan_cons_of_read?_eq_none hb,
          prepend_append (t ++ cut.before) [c]]
        rfl

end Searches

end Scan

theorem searches_conditions (s : List Char) : Searches ConditionBlock.openerTag
    ConditionBlock.spans ConditionSpans.whole (condition? s) s where
  ascii := by decide
  ne_nil := by decide
  read?_eq_none _ := ConditionBlock.read?_eq_none
  whole_place _ _ := rfl
  block?_eq := by
    rintro u v w r rfl hr
    exact condition?_append u hr

theorem searches_presences (s : List Char) : Searches PresenceBlock.openerTag
    PresenceBlock.spans PresenceSpans.whole (presence? s) s where
  ascii := by decide
  ne_nil := by decide
  read?_eq_none _ := PresenceBlock.read?_eq_none
  whole_place _ _ := rfl
  block?_eq := by
    rintro u v w r rfl hr
    exact presence?_append u hr

theorem scanConditions?_eq (s : List Char) :
    scanConditions? s = some (Template.conditionSpans s) :=
  (searches_conditions s).scan?_append [] [] s rfl (Nat.lt_succ_self _)

example : scanConditions? ('é' :: ConditionBlock.openerTag.map Char.toUpper ++ " x ".toList ++
      Template.tagEnd ++ ['a'] ++ ConditionBlock.elseTag ++ ConditionBlock.closerTag) =
    some [.literal ⟨0, 2⟩, .block ⟨⟨2, 29⟩, ⟨8, 9⟩, ⟨12, 13⟩, some ⟨22, 22⟩⟩] := by
  decide +kernel

theorem scanPresences?_eq (s : List Char) :
    scanPresences? s = some (Template.presenceSpans s) :=
  (searches_presences s).scan?_append [] [] s rfl (Nat.lt_succ_self _)

end ConditionalTemplate.Offset
