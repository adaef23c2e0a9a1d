import MarkupLint.Document
import MarkupLint.Text.File

/-!
Tables of replacements: patterns with the templates that take the place of their matches. A table is
written as lines of two fields.
-/

namespace MarkupLint

/-- Why a document cannot be cleaned. -/
inductive CleanError where
  /-- A pattern of a table cannot be read. -/
  | pattern (e : PatternError)
  /-- A template of a table does not fit. -/
  | replacement (e : ReplacementError)
deriving DecidableEq, Repr

namespace CleanError

/-- The wording of a cleaning error. -/
def message : CleanError → String
  | pattern e => e.message
  | replacement e => e.message

/-- Whether the error is one of the table as it is written. A name of a group that a pattern does not have
is an error of another kind, which is not reported as a failure of cleaning; so are the errors of a
pattern that do not lie in its writing. -/
def isMalformed : CleanError → Bool
  | pattern e => e.isMalformed
  | replacement (.malformed ..) => true
  | replacement _ => false

end CleanError

/-- A table of replacements, in the order in which they are made. No pattern is listed twice. -/
structure Table where
  /-- The patterns with their templates. -/
  rows : List (Text × Text)
deriving DecidableEq, Repr

namespace Table

/-- The table without rows. -/
def empty : Table := ⟨[]⟩

/-- The table with one more row. A pattern that is listed already keeps its place and gets the new
template. -/
def insert (t : Table) (pattern template : Text) : Table :=
  if t.rows.any (·.1 == pattern) then
    ⟨t.rows.map fun row => if row.1 == pattern then (pattern, template) else row⟩
  else ⟨t.rows ++ [(pattern, template)]⟩

/-- The table with the given rows, added one after the other. -/
def ofRows (rows : List (Text × Text)) : Table :=
  rows.foldl (fun t (pattern, template) => t.insert pattern template) empty

/-- The table that lines write. Blank lines and comments are passed over, and so are lines without a
tab. -/
def ofLines (lines : List Text) : Table :=
  ofRows ((lines.filter (!·.holdsNoFields)).filterMap Text.keyValue?)

/-- The lines that are neither blank nor comments and hold no row. -/
def malformedLines (lines : List Text) : List Text :=
  lines.filter fun line => !line.holdsNoFields && line.keyValue?.isNone

/-- The document after the replacements of one row. -/
def replaceRow (d : Document) (row : Text × Text) : Except CleanError Document := do
  let p ← (Pattern.compile row.1 Pattern.multiline).mapError .pattern
  (d.apply (.replace p (.template row.2) true 0)).mapError .replacement

/-- The document after all replacements. -/
def clean (t : Table) (d : Document) : Except CleanError Document := t.rows.foldlM replaceRow d

end Table

end MarkupLint
