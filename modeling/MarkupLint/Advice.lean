import MarkupLint.Document

/-!
Advice: what a rule has to say about a range of a document, and where that is in the initial text.
-/

namespace MarkupLint

/-- What is reported about a rule. -/
structure RuleInfo where
  /-- The name by which the rule is called. -/
  name : String
  /-- What the rule looks for. -/
  description : String
deriving DecidableEq, Repr

/-- A piece of advice. -/
structure Advice where
  /-- The rule that gives it. -/
  rule : RuleInfo
  /-- The range that it is about. -/
  range : Range
  /-- The positions of the ends of the range. -/
  extent : Extent
  /-- What it says. -/
  message : Text
  /-- The name of the document. -/
  resource : String
  /-- The line on which the range starts. -/
  line : Line
  /-- Whether range, extent and line are those of the initial text, and not of the text that the rule
  looked at. -/
  traced : Bool
  /-- Texts that might take the place of the range. -/
  replacements : List Text
deriving DecidableEq, Repr

namespace Advice

/-- The column of the range in its line. -/
def column (a : Advice) : Int := (a.range.start : Int) - a.line.offset

/-- The location, in lower case when it is not one of the initial text. -/
def location (a : Advice) : String :=
  if a.traced then a.extent.render else a.extent.render.toLower

/-- The advice in a line for a reader. -/
def render (a : Advice) : String := s!"{a.location} {String.ofList a.message}"

/-- Whether advice comes no later than other advice in a report: by document, then range, then rule. -/
def le (a b : Advice) : Bool :=
  a.resource < b.resource ∨ (a.resource = b.resource ∧
    (a.range ≠ b.range ∧ a.range.le b.range ∨ (a.range = b.range ∧ a.rule.name ≤ b.rule.name)))

end Advice

/-- Advice about a range of the current text. It points to where the range comes from in the initial
text, and to the current text when it comes from nowhere. -/
def Provenance.advise (v : Provenance) (rule : RuleInfo) (r : Range) (message : Text)
    (replacements : List Text) : Advice :=
  let d := v.document
  let (text, place, traced) : Text × Range × Bool := match v.backward r with
    | some found => (d.initial, found, true)
    | none => (d.current, r, false)
  { rule, range := place, extent := text.extent d.newline place, message, resource := d.resource
    line := (d.lineAt? text place.start).getD ⟨[], 0⟩, traced, replacements }

namespace Provenance

section

variable (v : Provenance) (rule : RuleInfo) (r : Range) (message : Text) (replacements : List Text)

@[simp]
theorem rule_advise : (v.advise rule r message replacements).rule = rule := rfl

@[simp]
theorem message_advise : (v.advise rule r message replacements).message = message := rfl

@[simp]
theorem resource_advise : (v.advise rule r message replacements).resource = v.document.resource := rfl

@[simp]
theorem replacements_advise : (v.advise rule r message replacements).replacements = replacements := rfl

end

variable {v : Provenance} {rule : RuleInfo} {r found : Range} {message : Text} {replacements : List Text}

/-- Advice about a range that comes from the initial text has the range, the extent and the line of where it comes
from. -/
theorem advise_of_backward_eq_some (h : v.backward r = some found) :
    v.advise rule r message replacements =
      { rule, range := found, extent := v.document.initial.extent v.document.newline found, message
        resource := v.document.resource
        line := (v.document.lineAt? v.document.initial found.start).getD ⟨[], 0⟩, traced := true, replacements } := by
  simp only [advise, h]

/-- Advice about a range that comes from nowhere has that range, and its extent and line in the current text. -/
theorem advise_of_backward_eq_none (h : v.backward r = none) :
    v.advise rule r message replacements =
      { rule, range := r, extent := v.document.current.extent v.document.newline r, message
        resource := v.document.resource
        line := (v.document.lineAt? v.document.current r.start).getD ⟨[], 0⟩, traced := false, replacements } := by
  simp only [advise, h]

end Provenance

end MarkupLint
