import ConditionalTemplate.Data
import ConditionalTemplate.Loader
import ConditionalTemplate.Normalization
import ConditionalTemplate.Settings.Basic
import ConditionalTemplate.Template.Resolution

/-!
# Rendering

A render makes a record of the data, resolves the condition blocks, then the presence blocks of
what is left, and normalizes the outcome where the settings ask for it.
-/

namespace ConditionalTemplate

structure Renderer where
  settings : Settings := {}
  load : Loader := Loader.none

namespace Renderer

/-- The name of a template without one. -/
def inlineLabel : String := "<inline>"

/-- The output for a record. -/
def fill (r : Renderer) (template : List Char) (record : Record) : Report (List Char) := do
  let text ← Template.resolveConditions record template
  let text ← Template.resolvePresences record text
  pure (if r.settings.normalizeWhitespace then Normalization.normalize text else text)

/-- Renders a template under a name. -/
def renderNamed (r : Renderer) (template : String) (data : Data) (name : Option String) :
    Report String := do
  let record ← Report.ofExcept data.toRecord
  Report.give (.extracted record.size)
  let output ← r.fill template.toList record
  Report.give (.call (.rendered (name.getD inlineLabel) (String.ofList output)))
  pure (String.ofList output)

/-- Renders a template without a name. -/
def render (r : Renderer) (template : String) (data : Data) : Report String :=
  r.renderNamed template data none

/-- Loads a template and renders it under its name. -/
def renderFile (r : Renderer) (name : String) (data : Data) : Report String := do
  Report.give (.loading name)
  let template ← Report.ofExcept (r.load name)
  r.renderNamed template data (some name)

end Renderer

/-- Renders a template with the default settings. -/
def render (template : String) (data : Data) : Except Failure String :=
  (Renderer.render {} template data).outcome

end ConditionalTemplate
