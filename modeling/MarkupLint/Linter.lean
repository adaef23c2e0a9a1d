import MarkupLint.Clean.Cleaner
import MarkupLint.Language
import MarkupLint.Rule
import MarkupLint.Text.Wildcard

/-!
The linter runs rules on a document without comments and other rules on the cleaned document, leaves out
the rules on its blacklist, and reports the advice in order.
-/

namespace MarkupLint

/-- A linter. -/
structure Linter where
  /-- What cleans documents. -/
  cleaner : Cleaner
  /-- The rules for documents without comments. -/
  rules : List Rule
  /-- The rules for cleaned documents. -/
  cleanedRules : List Rule
  /-- The names of the rules that are left out, each once. -/
  blacklist : List String
deriving DecidableEq, Repr

/-- Why a document cannot be linted. -/
inductive LintError where
  /-- It cannot be cleaned. -/
  | clean (e : CleanError)
  /-- Nothing but blanks is left of it. -/
  | noText
  /-- A message of a rule cannot be filled in. -/
  | message (e : MessageError)
deriving DecidableEq, Repr

namespace LintError

/-- The wording of a linting error. -/
def wording : LintError → String
  | clean e => e.message
  | noText => "No text to analyze. Did you omit --read-all?"
  | message e => e.message

/-- Whether the error is reported as a failure of linting. -/
def isReported : LintError → Bool
  | clean e => e.isMalformed
  | noText => true
  | message _ => false

end LintError

namespace Linter

/-- A linter with a cleaner and no rules. -/
def ofCleaner (cleaner : Cleaner) : Linter := ⟨cleaner, [], [], []⟩

/-! ### The blacklist -/

/-- The rules whose names a name stands for; only a name with a star has wildcards. -/
def namesMatching (l : Linter) (name : String) : List String :=
  if name.contains '*' then
    ((l.rules ++ l.cleanedRules).map (·.name)).filter fun r => Text.matchesWild name.toList r.toList
  else [name]

/-- A list of names with one more, unless it is there already. -/
def addName (known : List String) (name : String) : List String :=
  if known.contains name then known else known ++ [name]

/-- The linter without the rules of the given names. Wildcards stand for the rules that the linter has. -/
def ignore (l : Linter) (names : List String) : Linter :=
  { l with blacklist := (names.flatMap l.namesMatching).foldl addName l.blacklist }

/-- The warnings about names with wildcards that stand for no rule. -/
def ignoreWarnings (l : Linter) (names : List String) : List LogEntry :=
  (names.filter fun name => (l.namesMatching name).isEmpty).map fun name =>
    ⟨.warning, s!"No rule matches {Text.quoted name.toList}"⟩

/-! ### Evaluation -/

/-- The rules of a list that are not on the blacklist. -/
def kept (l : Linter) (rules : List Rule) : List Rule :=
  rules.filter fun r => !l.blacklist.contains r.name

/-- The advice of the rules of a list that are not on the blacklist, rule after rule. -/
def run (l : Linter) (rules : List Rule) (d : Document) : Except LintError (List Advice) :=
  (Rule.evaluateAll (l.kept rules) d.provenance).mapError .message

/-- The cleaned document. -/
def clean (l : Linter) (d : Document) : Except LintError Document := (l.cleaner.clean d).mapError .clean

/-- All advice about a document, sorted. -/
def evaluate (l : Linter) (d : Document) : Except LintError (List Advice) := do
  let advice ← l.run l.rules (l.cleaner.cleanComments d)
  let cleaned ← l.clean d
  if cleaned.current.allBlank then throw .noText
  return (advice ++ (← l.run l.cleanedRules cleaned)).mergeSort Advice.le

/-! ### Notes on the work -/

/-- The notes on rules that stopped early. -/
def ruleNotes (l : Linter) (rules : List Rule) (d : Document) : List LogEntry :=
  (l.kept rules).filterMap fun
    | .regex r =>
      if r.stopsEarly d then
        some ⟨.debug, s!"Rule {r.name} stopped after {RegexRule.maxMatches} matches"⟩
      else none
    | _ => none

/-- The notes on linting a document. -/
def notes (l : Linter) (d : Document) : List LogEntry :=
  l.cleaner.commentNotes d ++ l.ruleNotes l.rules (l.cleaner.cleanComments d) ++
    l.cleaner.cleanNotes d ++
    match l.clean d, l.evaluate d with
    | .ok cleaned, .ok advice =>
      let name := if d.resource.isEmpty then "<input>" else d.resource
      l.ruleNotes l.cleanedRules cleaned ++ [⟨.debug, s!"{name}: {advice.length} advice"⟩]
    | _, _ => []

/-! ### The linters of languages -/

/-- The linter of a language with the given cleaner. -/
def ofLanguage (language : Language) (cleaner : Cleaner) : Linter :=
  { cleaner
    rules := match language with
      | .latex | .unspecified => RegexRule.sourceRules.map .regex ++ Rule.structural
      | .markdown | .plain => []
    cleanedRules := RegexRule.cleanedRules.map .regex
    blacklist := [] }

end Linter

end MarkupLint
