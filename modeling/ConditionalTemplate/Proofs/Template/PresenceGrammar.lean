import ConditionalTemplate.Proofs.Template.Leftmost
import ConditionalTemplate.Proofs.Text.Class
import ConditionalTemplate.Proofs.Text.Maximal
import ConditionalTemplate.Proofs.Text.Occurrence
import Mathlib.Data.Set.Subsingleton

/-!
# The grammar of presence blocks

`PresenceForm.Of s f`: a presence block begins the text `s`, cut into the parts `f`. The grammar
does not ask for maximal runs: white space and word characters are disjoint, and `}` is neither, so
that the runs end where the reader ends them. The scan finds exactly the leftmost blocks of this
grammar (`presenceSpans_eq_iff`).
-/

namespace ConditionalTemplate

open Text (width isBlank isWordChar)
open Text.Tag (Spells FirstAt)
open Template (tagEnd Leftmost ReadAt withLiterals)

/-- The parts of a text that begins with a presence block. -/
structure PresenceForm where
  opener : List Char
  gap : List Char
  first : List Char
  separator : List Char
  second : List Char
  body : List Char
  closer : List Char
  after : List Char

theorem PresenceBlock.read?_eq_none {s : List Char}
    (h : Text.Tag.read? PresenceBlock.openerTag s = none) :
    Block.read? (β := PresenceBlock) s = none := by
  show PresenceBlock.read? s = none
  rw [PresenceBlock.read?, h]
  rfl

namespace PresenceForm

variable {f f' : PresenceForm} {s : List Char} {p : Nat} {g g' : PresenceSpans}

/-- The text is `{{#between`, white space, a name, white space, a name, `}}`, a body up to the first
closing tag, that tag, and more. -/
structure Of (s : List Char) (f : PresenceForm) : Prop where
  eq_append : s = f.opener ++ (f.gap ++ (f.first ++ (f.separator ++ (f.second ++ (tagEnd ++
    (f.body ++ (f.closer ++ f.after)))))))
  opener : Spells PresenceBlock.openerTag f.opener
  gap_ne_nil : f.gap ≠ []
  gap_blank : ∀ c ∈ f.gap, isBlank c = true
  first_ne_nil : f.first ≠ []
  first_word : ∀ c ∈ f.first, isWordChar c = true
  separator_ne_nil : f.separator ≠ []
  separator_blank : ∀ c ∈ f.separator, isBlank c = true
  second_ne_nil : f.second ≠ []
  second_word : ∀ c ∈ f.second, isWordChar c = true
  closer : Spells PresenceBlock.closerTag f.closer
  body_end : FirstAt PresenceBlock.closerTag (f.body ++ (f.closer ++ f.after)) (width f.body)

/-- Where the parts of a block begin, one after the other. -/
def firstStart (f : PresenceForm) (p : Nat) : Nat :=
  p + width (f.opener ++ f.gap)

def secondStart (f : PresenceForm) (p : Nat) : Nat :=
  f.firstStart p + width (f.first ++ f.separator)

def bodyStart (f : PresenceForm) (p : Nat) : Nat :=
  f.secondStart p + width (f.second ++ tagEnd)

/-- The spans of a block at a position. -/
def spans (f : PresenceForm) (p : Nat) : PresenceSpans where
  whole := ⟨p, f.bodyStart p + width (f.body ++ f.closer)⟩
  first := ⟨f.firstStart p, f.firstStart p + width f.first⟩
  second := ⟨f.secondStart p, f.secondStart p + width f.second⟩
  body := ⟨f.bodyStart p, f.bodyStart p + width f.body⟩

/-- A block with the spans `g` begins at a byte of the text. -/
def At (s : List Char) (p : Nat) (g : PresenceSpans) : Prop :=
  ∃ u v f, s = u ++ v ∧ width u = p ∧ Of v f ∧ g = f.spans p

/-- The block as the scan reads it. -/
def block (f : PresenceForm) : PresenceBlock where
  opener := f.opener
  gap := f.gap
  first := f.first
  separator := f.separator
  second := f.second
  body := f.body
  closer := f.closer

theorem head?_word_append {q : Char → Bool} {w r : List Char} (hw : w ≠ [])
    (h : ∀ c ∈ w, q c = false) : ∀ c ∈ (w ++ r).head?, q c = false := by
  cases w with
  | nil => exact absurd rfl hw
  | cons d w =>
    intro c hc
    obtain rfl : d = c := Option.some.inj hc
    exact h d List.mem_cons_self

/-- A text is read as a block exactly if it is of the grammar. -/
theorem read?_eq_some_iff {b : PresenceBlock} {r : List Char} :
    PresenceBlock.read? s = some (b, r) ↔ ∃ f, Of s f ∧ b = f.block ∧ r = f.after := by
  simp only [PresenceBlock.read?, Option.bind_eq_bind, Option.bind_eq_some_iff, Prod.exists,
    Text.Tag.read?_eq_some_iff, Text.readRun?_eq_some_iff, Text.Tag.cut?_eq_some_iff,
    Option.some.injEq, Prod.mk.injEq]
  constructor
  · rintro ⟨opener, s₁, ⟨rfl, ho⟩, gap, s₂, ⟨rfl, hgn, hg, -⟩, first, s₃, ⟨rfl, hfn, hf, -⟩,
      separator, s₄, ⟨rfl, hsn, hs, -⟩, second, s₅, ⟨rfl, hcn, hc, -⟩, written, s₆, ⟨rfl, hw⟩,
      tail, ⟨rfl, ht, he⟩, rfl, rfl⟩
    obtain rfl : written = tagEnd := Text.Tag.eq_of_read?
      (fun _ => Template.isAlpha_of_mem_tagEnd) (Text.Tag.read?_append_of_spells hw [])
    exact ⟨⟨opener, gap, first, separator, second, tail.before, tail.written, tail.after⟩,
      ⟨rfl, ho, hgn, hg, hfn, hf, hsn, hs, hcn, hc, ht, he⟩, rfl, rfl⟩
  · rintro ⟨f, h, rfl, rfl⟩
    have hblank : ∀ {w : List Char}, (∀ c ∈ w, isWordChar c = true) → ∀ c ∈ w, isBlank c = false :=
      fun hw c hc => Text.isBlank_eq_false_of_isWordChar (hw c hc)
    have hend : ∀ c ∈ (tagEnd ++ (f.body ++ (f.closer ++ f.after))).head?, isWordChar c = false := by
      rintro c hc
      obtain rfl : '}' = c := Option.some.inj hc
      exact Text.isWordChar_brace.2
    exact ⟨f.opener, _, ⟨h.eq_append, h.opener⟩,
      f.gap, _, ⟨rfl, h.gap_ne_nil, h.gap_blank,
        head?_word_append h.first_ne_nil (hblank h.first_word)⟩,
      f.first, _, ⟨rfl, h.first_ne_nil, h.first_word, head?_word_append h.separator_ne_nil
        fun c hc => Text.isWordChar_eq_false_of_isBlank (h.separator_blank c hc)⟩,
      f.separator, _, ⟨rfl, h.separator_ne_nil, h.separator_blank,
        head?_word_append h.second_ne_nil (hblank h.second_word)⟩,
      f.second, _, ⟨rfl, h.second_ne_nil, h.second_word, hend⟩, tagEnd, _, ⟨rfl, rfl⟩,
      ⟨f.body, f.closer, f.after⟩, ⟨rfl, h.closer, h.body_end⟩, rfl, rfl⟩

/-- A text is cut along the grammar in at most one way. -/
theorem Of.unique (h : Of s f) (h' : Of s f') : f = f' := by
  have hr := read?_eq_some_iff.mpr ⟨f, h, rfl, rfl⟩
  have hr' := read?_eq_some_iff.mpr ⟨f', h', rfl, rfl⟩
  obtain ⟨hb, ha⟩ := Prod.mk.inj (Option.some.inj (hr.symm.trans hr'))
  cases f
  cases f'
  simp_all [block]

theorem spans_block (f : PresenceForm) (p : Nat) : f.block.spans p = f.spans p := by
  simp only [PresenceBlock.spans, PresenceBlock.text, block, spans, Span.ofText, firstStart,
    secondStart, bodyStart, Text.width_append, Nat.add_assoc]

/-- What can be read at a byte is what the grammar has there. -/
theorem readAt_iff : ReadAt PresenceBlock.spans s p g ↔ At s p g := by
  constructor
  · rintro ⟨u, v, b, r, rfl, rfl, hr, rfl⟩
    obtain ⟨f, hf, rfl, rfl⟩ := read?_eq_some_iff.mp hr
    exact ⟨u, v, f, rfl, rfl, hf, f.spans_block _⟩
  · rintro ⟨u, v, f, rfl, rfl, hf, rfl⟩
    exact ⟨u, v, f.block, f.after, rfl, rfl, read?_eq_some_iff.mpr ⟨f, hf, rfl, rfl⟩,
      (f.spans_block _).symm⟩

end PresenceForm

namespace Template

/-- The scan for presence blocks is the search for the leftmost blocks of the grammar: each begins
at the first byte at or after the end of the one before where the grammar has a block, with the
spans that the grammar gives it, and all other text is literal. -/
theorem presenceSpans_eq_iff (s : List Char) :
    (∀ v, {f | PresenceForm.Of v f}.Subsingleton) ∧
      ∀ segments, presenceSpans s = segments ↔
        ∃ blocks, Leftmost (PresenceForm.At s) PresenceSpans.whole 0 blocks ∧
          segments = withLiterals PresenceSpans.whole (width s) 0 blocks := by
  refine ⟨fun v f hf f' hf' => hf.unique hf', fun segments => ?_⟩
  exact locate_scan_eq_iff (fun _ _ => rfl) fun _ _ => PresenceForm.readAt_iff

end Template

end ConditionalTemplate
