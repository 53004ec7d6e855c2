import ConditionalTemplate.Proofs.Normalization.Characters
import ConditionalTemplate.Proofs.Rendering.Course

/-!
# Where the characters of an output come from

Nothing of a record gets into an output. A block leaves a part of its own text
(`ConditionBlock.isInfix_kept`, `PresenceBlock.isInfix_kept`), so a pass leaves characters of its
text in their order, whatever blocks the second pass finds where the first one has brought texts
together (`Kept.sublist`). Normalization after that only tidies white space
(`Normalization.Tidied`).
-/

namespace ConditionalTemplate

open Normalization (Tidied)

theorem ConditionBlock.isInfix_kept (b : ConditionBlock) (taken : Bool) :
    b.kept taken <:+: b.text := by
  cases taken with
  | true =>
    exact ⟨b.opener ++ b.gap ++ b.condition ++ b.trail ++ Template.tagEnd,
      clauseText b.otherwise ++ b.closer, by simp [kept, text]⟩
  | false =>
    cases h : b.otherwise with
    | none =>
      rw [show b.kept false = [] by simp [kept, h]]
      exact List.nil_infix
    | some clause =>
      exact ⟨b.opener ++ b.gap ++ b.condition ++ b.trail ++ Template.tagEnd ++ b.body ++ clause.tag,
        b.closer, by simp [kept, text, clauseText, h]⟩

theorem PresenceBlock.isInfix_kept (b : PresenceBlock) (taken : Bool) :
    b.kept taken <:+: b.text := by
  cases taken with
  | true =>
    exact ⟨b.opener ++ b.gap ++ b.first ++ b.separator ++ b.second ++ Template.tagEnd, b.closer,
      by simp [kept, text]⟩
  | false => exact List.nil_infix

namespace Template

variable {r : Record} {s text kept : List Char}

theorem sublist_of_resolveConditions (h : (resolveConditions r s).outcome = .ok text) :
    text.Sublist s := by
  have hsub := sublist_of_outcome_resolve (fun b answer => (b.isInfix_kept answer).sublist) h
  rwa [flatMap_scan] at hsub

theorem sublist_of_resolvePresences (h : (resolvePresences r text).outcome = .ok kept) :
    kept.Sublist text := by
  have hsub := sublist_of_outcome_resolve (fun b answer => (b.isInfix_kept answer).sublist) h
  rwa [flatMap_scan] at hsub

/-- The text that the two passes leave of a template. -/
inductive Kept (data : Data) (template : List Char) : List Char → Prop where
  | intro {r : Record} {text kept : List Char} (hdata : data.toRecord = .ok r)
    (htext : (resolveConditions r template).outcome = .ok text)
    (hkept : (resolvePresences r text).outcome = .ok kept) : Kept data template kept

theorem Kept.sublist {data : Data} (h : Kept data s kept) : kept.Sublist s := by
  obtain ⟨-, htext, hkept⟩ := h
  exact (sublist_of_resolvePresences hkept).trans (sublist_of_resolveConditions htext)

end Template

namespace Renderer

open Template (Kept)

variable {renderer : Renderer} {template output : String} {data : Data} {name : Option String}

/-- An output made of the characters of a template: of what the passes keep, as it is or tidied. -/
structure DrawnFrom (normalized : Bool) (template kept output : List Char) : Prop where
  sublist : kept.Sublist template
  plain : normalized = false → output = kept ∧ output.Sublist template
  tidied : normalized = true → Tidied kept output ∧
    (output.filter fun c => !Text.isBlank c).Sublist (template.filter fun c => !Text.isBlank c)

theorem drawnFrom_finish {s kept : List Char} (h : kept.Sublist s) :
    DrawnFrom renderer.settings.normalizeWhitespace s kept (renderer.finish kept) := by
  refine ⟨h, fun hoff => ?_, fun hon => ?_⟩
  · rw [finish, if_neg (by simp [hoff])]
    exact ⟨rfl, h⟩
  · rw [finish, if_pos hon]
    have htidied := Normalization.tidied_normalize kept
    rw [htidied.visible]
    exact ⟨htidied, h.filter _⟩

theorem exists_kept_of_renderNamed
    (h : (renderer.renderNamed template data name).outcome = .ok output) :
    ∃ kept, Kept data template.toList kept ∧ output.toList = renderer.finish kept := by
  have hcourse := course_renderNamed renderer template data name
  rw [h] at hcourse
  -- the calls are an index of the course; only as a variable do they let it be split
  generalize (renderer.renderNamed template data name).calls = calls at hcourse
  cases hcourse with
  | complete hdata _ htext _ hkept houtput =>
    rw [houtput, String.toList_ofList]
    exact ⟨_, ⟨hdata, htext, hkept⟩, rfl⟩

/-- The output of a render is drawn from the template, loaded or given: without normalization it is
a subsequence of it. With normalization the characters that are not white space are a subsequence of
those of the template, and all white space is single spaces, line breaks, and rare characters that
the passes have kept. -/
theorem drawnFrom_of_outcome (renderer : Renderer) (data : Data) (output : String) :
    (∀ template name, (renderer.renderNamed template data name).outcome = .ok output →
        ∃ kept, Kept data template.toList kept ∧
          DrawnFrom renderer.settings.normalizeWhitespace template.toList kept output.toList) ∧
      ∀ file, (renderer.renderFile file data).outcome = .ok output →
        ∃ template kept, renderer.load file = .ok template ∧ Kept data template.toList kept ∧
          DrawnFrom renderer.settings.normalizeWhitespace template.toList kept output.toList := by
  have hnamed : ∀ template name, (renderer.renderNamed template data name).outcome = .ok output →
      ∃ kept, Kept data template.toList kept ∧
        DrawnFrom renderer.settings.normalizeWhitespace template.toList kept output.toList := by
    intro template name h
    obtain ⟨kept, hkept, houtput⟩ := exists_kept_of_renderNamed h
    rw [houtput]
    exact ⟨kept, hkept, drawnFrom_finish hkept.sublist⟩
  refine ⟨hnamed, fun file h => ?_⟩
  cases hload : renderer.load file with
  | error f => rw [renderFile_of_missing hload] at h; cases h
  | ok template =>
    rw [renderFile_of_loaded hload] at h
    obtain ⟨kept, hkept⟩ := hnamed template (some file) h
    exact ⟨template, kept, rfl, hkept⟩

/-- `{{#bet{{#if off}} {{/if}}ween off note}} a\t  b\n \n c{{/between}} {{#if off`: the condition
pass takes a block out of the opening tag of another one. -/
def brokenTemplate : String :=
  "\x7b\x7b#bet\x7b\x7b#if off\x7d\x7d \x7b\x7b/if\x7d\x7dween off note\x7d\x7d" ++
    " a\t  b\n \n c\x7b\x7b/between\x7d\x7d \x7b\x7b#if off"

def secretData : Data :=
  .entries [("note", .text "secret"), ("off", .bool false)]

def brokenLoader : Loader :=
  .ofTable (Table.ofList [("broken", brokenTemplate)])

/-- Two passes that find blocks in a template that is not well-formed, without and with
normalization. -/
theorem drawnFrom_of_outcome_brokenTemplate :
    (renderNamed ⟨{ normalizeWhitespace := false }, .none⟩ brokenTemplate secretData none).outcome =
        .ok " a\t  b\n \n c \x7b\x7b#if off" ∧
      (∃ kept, Kept secretData brokenTemplate.toList kept ∧
        DrawnFrom false brokenTemplate.toList kept " a\t  b\n \n c \x7b\x7b#if off".toList) ∧
      (renderFile ⟨{}, brokenLoader⟩ "broken" secretData).outcome =
        .ok "a b\nc \x7b\x7b#if off" ∧
      ∃ template kept, brokenLoader "broken" = .ok template ∧
        Kept secretData template.toList kept ∧
        DrawnFrom true template.toList kept "a b\nc \x7b\x7b#if off".toList := by
  have hplain : (renderNamed ⟨{ normalizeWhitespace := false }, .none⟩ brokenTemplate secretData
      none).outcome = .ok " a\t  b\n \n c \x7b\x7b#if off" := by
    decide +kernel
  have htidied : (renderFile ⟨{}, brokenLoader⟩ "broken" secretData).outcome =
      .ok "a b\nc \x7b\x7b#if off" := by
    decide +kernel
  exact ⟨hplain, (drawnFrom_of_outcome _ secretData _).1 brokenTemplate none hplain, htidied,
    (drawnFrom_of_outcome _ secretData _).2 "broken" htidied⟩

end Renderer

end ConditionalTemplate
