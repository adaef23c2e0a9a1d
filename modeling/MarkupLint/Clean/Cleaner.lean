import MarkupLint.Clean.Latex
import MarkupLint.Clean.Markdown
import MarkupLint.Clean.Table
import MarkupLint.Log

/-!
Cleaners: what removes the markup of a document, alone or one after the other.
-/

namespace MarkupLint

/-- A way to clean documents. -/
inductive Cleaner where
  /-- Leaves a document as it is. -/
  | keep
  /-- Removes LaTeX markup. -/
  | latex (settings : Latex)
  /-- Removes Markdown markup. -/
  | markdown
  /-- Makes the replacements of a table. -/
  | table (t : Table)
  /-- Runs one cleaner after the other. -/
  | andThen (first second : Cleaner)
deriving DecidableEq, Repr

namespace Cleaner

/-- Several cleaners one after the other. -/
def composite (cleaners : List Cleaner) : Cleaner := cleaners.foldl andThen keep

/-- The document without comments, its markup kept. -/
def cleanComments : Cleaner → Document → Document
  | keep, d | table _, d => d
  | latex _, d => Latex.cleanComments d
  | markdown, d => Markdown.cleanComments d
  | andThen a b, d => b.cleanComments (a.cleanComments d)

/-- The document without comments and markup. -/
def clean : Cleaner → Document → Except CleanError Document
  | keep, d => .ok d
  | latex l, d => .ok (l.clean d)
  | markdown, d => .ok (Markdown.clean d)
  | table t, d => t.clean d
  | andThen a b, d => a.clean d >>= b.clean

/-- The files that a document includes, as they are found while it is cleaned; what follows a failure is
not looked at. -/
def includedFiles : Cleaner → Document → List Text
  | latex _, d => Latex.includedFiles d
  | keep, _ | markdown, _ | table _, _ => []
  | andThen a b, d =>
    a.includedFiles d ++
      match a.clean d with
      | .ok d => b.includedFiles d
      | .error _ => []

/-! ### Notes on the work -/

/-- The notes on the replacements of a document, after the first `known` edits, that stopped early. -/
def cappedNotes (d : Document) (known : Nat) : List LogEntry :=
  (d.history.drop known).filterMap fun r =>
    match r.edit with
    | .replace p .. =>
      if r.capped then
        some ⟨.debug, s!"Stopped replacing {p.source.quoted} after {Edit.maxMatches} matches"⟩
      else none
    | _ => none

/-- The notes on removing comments. -/
def commentNotes (c : Cleaner) (d : Document) : List LogEntry :=
  cappedNotes (c.cleanComments d) d.history.length

/-- The rows of a table up to the first one that fails. -/
def applyRows (d : Document) : List (Text × Text) → Document
  | [] => d
  | row :: rows =>
    match Table.replaceRow d row with
    | .ok d => applyRows d rows
    | .error _ => d

/-- The notes on cleaning. -/
def cleanNotes : Cleaner → Document → List LogEntry
  | keep, _ => []
  | latex l, d =>
    let decommented := Latex.cleanComments d
    let (found, body) := l.removeEnvironments decommented
    cappedNotes decommented d.history.length ++
      (if found then [] else
        [⟨.debug, "No \\begin\x7bdocument\x7d found; whole input discarded"⟩]) ++
      cappedNotes (l.removeMarkup body) body.history.length
  | markdown, d => cappedNotes (Markdown.clean d) d.history.length
  | table t, d => cappedNotes (applyRows d t.rows) d.history.length
  | andThen a b, d =>
    a.cleanNotes d ++
      match a.clean d with
      | .ok d => b.cleanNotes d
      | .error _ => []

end Cleaner

end MarkupLint
