import MarkupLint.Advice

/-!
Reports: the advice about documents, under the names of the documents and in the order in which they were
added; and excerpts of lines, which are pieces of a limited width around the columns that advice is about.
-/

namespace MarkupLint

/-- A format of reports. -/
inductive ReportFormat where
  /-- Blocks for a reader. -/
  | plain
  /-- A line for each piece of advice. -/
  | singleline
  /-- JSON. -/
  | json
deriving DecidableEq, Repr

namespace ReportFormat

/-- The formats that settings can name. -/
def choices : List ReportFormat := [plain, singleline, json]

/-- The name of a format. -/
def name : ReportFormat → String
  | plain => "plain"
  | singleline => "singleline"
  | json => "json"

/-- The format of a name. -/
def ofName? (name : String) : Option ReportFormat := choices.find? (·.name == name)

end ReportFormat

/-- A report. -/
structure Report where
  /-- The names of documents with the advice about them. -/
  entries : List (String × List Advice)
deriving DecidableEq, Repr

namespace Report

/-- A report about nothing. -/
def empty : Report := ⟨[]⟩

/-- The report with advice about a document; advice is added to what there is about it already. -/
def add (r : Report) (resource : String) (advice : List Advice) : Report :=
  if r.entries.any (·.1 == resource) then
    ⟨r.entries.map fun e => if e.1 == resource then (e.1, e.2 ++ advice) else e⟩
  else ⟨r.entries ++ [(resource, advice)]⟩

/-- The number of pieces of advice. -/
def count (r : Report) : Nat := (r.entries.flatMap (·.2)).length

/-- A text in a colour, if colours are wanted. -/
def paint (color : Bool) (code : String) (text : String) : String :=
  if color then code ++ text ++ "\x1b[0m" else text

/-- Yellow, for locations. -/
def yellow : String := "\x1b[33m"

/-- Red, for what is wrong. -/
def red : String := "\x1b[91m"

end Report

/-! ### Excerpts -/

namespace Excerpt

/-- The characters from column `start` on, up to but without `stop`; a negative `stop` counts from the end
of the line. -/
def piece (line : Text) (start : Nat) (stop : Int) : Text :=
  line.slice start (if stop < 0 then (stop + line.length).toNat else stop.toNat)

/-- The column at which a piece of the given width around the columns `left` to `right` starts. The piece is
centred, and moved to the left as far as it would reach past the end of the line; a line that is not
longer than the distance of the columns is shown from its start. -/
def start (length : Nat) (left right width : Int) : Nat :=
  let distance := right - left
  let middle := left + Int.fdiv distance 2
  let half := Int.fdiv width 2
  if distance < length then
    if length ≤ middle + half then (middle - half - (middle + half - length)).toNat
    else (middle - half).toNat
  else 0

/-- The piece of a line of at most the given width around the columns `left` to `right`, and the column at
which it starts. -/
def window (line : Text) (left right width : Int) : Text × Nat :=
  let first := start line.length left right width
  (piece line first (first + width), first)

/-- The first and the last column of the advice's range on its line. A range that ends on another line is
taken to reach to the end of the line. -/
def columns (a : Advice) : Int × Int :=
  let left := if 0 ≤ a.extent.start.column then a.extent.start.column else a.column
  let right :=
    if a.extent.stop.line = a.extent.start.line ∧ left ≤ a.extent.stop.column then a.extent.stop.column
    else max left ((a.line.text.length : Int) - 1)
  (left, right)

end Excerpt

end MarkupLint
