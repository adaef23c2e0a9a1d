import MarkupLint.Rule.Figures
import MarkupLint.Rule.Habits
import MarkupLint.Rule.Headings
import MarkupLint.Rule.Regex

/-!
All rules, under one type.
-/

namespace MarkupLint

/-- A rule. -/
inductive Rule where
  /-- Reports the matches of a pattern. -/
  | regex (r : RegexRule)
  /-- Figures have labels, and labels are referred to. -/
  | figureReferences
  /-- Images are found by relative paths. -/
  | figurePaths
  /-- Captions end with a period. -/
  | captions
  /-- A divided section has more than one part. -/
  | divisions
  /-- No heading leaves out a level. -/
  | levels
  /-- A section has a least number of words. -/
  | sizes (least : Int)
  /-- There is text between two headings. -/
  | stackedHeadings
  /-- Lines of running text are not broken by hand. -/
  | lineBreaks
  /-- Citations have one style. -/
  | citations
deriving DecidableEq, Repr

namespace Rule

/-- What is reported about a rule. -/
def info : Rule → RuleInfo
  | regex r => r.info
  | figureReferences => Figures.referenceInfo
  | figurePaths => Figures.pathInfo
  | captions => Captions.info
  | divisions => Headings.divisionInfo
  | levels => Headings.levelInfo
  | sizes _ => Headings.sizeInfo
  | stackedHeadings => Headings.stackedInfo
  | lineBreaks => Habits.breakInfo
  | citations => Habits.citationInfo

/-- The name of a rule. -/
def name (r : Rule) : String := r.info.name

/-- The kind of a rule. -/
def kind : Rule → String
  | regex _ => "RegexRule"
  | figureReferences => "CheckFigureReferences"
  | figurePaths => "CheckFigurePaths"
  | captions => "CheckCaptions"
  | divisions => "CheckSubsections"
  | levels => "CheckLevelSkip"
  | sizes _ => "CheckSubsectionSize"
  | stackedHeadings => "CheckStackedHeadings"
  | lineBreaks => "CheckNoBreak"
  | citations => "CheckCiteMix"

/-- A rule in a line for a reader. -/
def render (r : Rule) : String := s!"{r.kind}({Text.quoted r.name.toList})"

/-- The advice of a rule about a document. Only a rule with a message of its own can fail. -/
def evaluate : Rule → Provenance → Except MessageError (List Advice)
  | regex r, v => r.evaluate v
  | figureReferences, v => .ok (Figures.referenceAdvice v)
  | figurePaths, v => .ok (Figures.pathAdvice v)
  | captions, v => .ok (Captions.evaluate v)
  | divisions, v => .ok (Headings.divisionAdvice v)
  | levels, v => .ok (Headings.levelAdvice v)
  | sizes least, v => .ok (Headings.sizeAdvice least v)
  | stackedHeadings, v => .ok (Headings.stackedAdvice v)
  | lineBreaks, v => .ok (Habits.breakAdvice v)
  | citations, v => .ok (Habits.citationAdvice v)

/-- The advice of rules about a document, rule after rule. -/
def evaluateAll (rules : List Rule) (v : Provenance) : Except MessageError (List Advice) := do
  return (← rules.mapM fun r => r.evaluate v).flatten

/-- The least number of words that a section should have. -/
def usualSize : Int := 150

/-- The rules on the structure of LaTeX sources. -/
def structural : List Rule :=
  [figureReferences, figurePaths, captions, divisions, levels, sizes usualSize, stackedHeadings,
   lineBreaks, citations]

end Rule

end MarkupLint
