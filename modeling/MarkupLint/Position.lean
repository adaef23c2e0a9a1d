/-!
Positions of a text as lines and columns, both counted from zero, for reports. A position that is not
in the text is `nowhere`; it comes before every other position.
-/

namespace MarkupLint

/-- A place in a text. -/
inductive Position where
  /-- No place of the text. -/
  | nowhere
  /-- The character in the given column of the given line. -/
  | cell (line column : Nat)
deriving DecidableEq, Repr

/-- Two coordinates that are no position. -/
structure PositionError where
  /-- The line asked for. -/
  line : Int
  /-- The column asked for. -/
  column : Int
deriving DecidableEq, Repr

/-- The wording of a position error. -/
def PositionError.message (e : PositionError) : String :=
  s!"Position must have line >= 0 and column >= 0, got ({e.line}, {e.column})"

namespace Position

/-- The line, or `-1` for `nowhere`. -/
def line : Position → Int
  | nowhere => -1
  | cell line _ => line

/-- The column, or `-1` for `nowhere`. -/
def column : Position → Int
  | nowhere => -1
  | cell _ column => column

/-- The position with the given coordinates; both are `-1` for `nowhere`. -/
def ofCoordinates (line column : Int) : Except PositionError Position :=
  if line = -1 ∧ column = -1 then .ok nowhere
  else if line < 0 ∨ column < 0 then .error ⟨line, column⟩
  else .ok (cell line.toNat column.toNat)

/-- The position some columns further on the same line. -/
def moveBy (p : Position) (columns : Int) : Except PositionError Position :=
  ofCoordinates p.line (p.column + columns)

/-- Positions are ordered by their line, then by their column. -/
def compare (p q : Position) : Ordering :=
  (Ord.compare p.line q.line).then (Ord.compare p.column q.column)

/-- How a position is written for a reader, who counts from one. -/
def render (p : Position) : String := s!"L{p.line + 1}C{p.column + 1}"

end Position

/-- The positions of the two ends of a range. -/
structure Extent where
  /-- The position of the first character. -/
  start : Position
  /-- The position of the last character. -/
  stop : Position
deriving DecidableEq, Repr

namespace Extent

/-- Whether the ends are on different lines. -/
def multiLine (e : Extent) : Bool := e.start.line ≠ e.stop.line

/-- Extents are ordered by their start, then by their stop. -/
def compare (e f : Extent) : Ordering :=
  (e.start.compare f.start).then (e.stop.compare f.stop)

/-- How an extent is written for a reader. -/
def render (e : Extent) : String := s!"{e.start.render}-{e.stop.render}"

end Extent

end MarkupLint
