import MarkupLint.Text.Basic
import MarkupLint.Range
import MarkupLint.Position

/-!
The lines of a text. Lines are separated by a terminator, a text of any positive length; occurrences of
the terminator are taken from the left without overlap. A terminator belongs to the line that it ends.
With an empty terminator the whole text is one line.
-/

namespace MarkupLint

/-- A line of a text, without its terminator. -/
structure Line where
  /-- The characters of the line. -/
  text : Text
  /-- The offset of its first character. -/
  offset : Nat
deriving DecidableEq, Repr

namespace Text

/-- The line terminator used when none is given. -/
def lineFeed : Text := ['\n']

/-- The offsets after the terminators in a text that begins at `offset`; `skip` characters of a
terminator are still to be passed. -/
def startsFrom (newline : Text) : Nat → Nat → Text → List Nat
  | _, _, [] => []
  | skip + 1, offset, _ :: rest => startsFrom newline skip (offset + 1) rest
  | 0, offset, c :: rest =>
    if newline.isPrefixOf (c :: rest) then
      (offset + newline.length) :: startsFrom newline (newline.length - 1) (offset + 1) rest
    else startsFrom newline 0 (offset + 1) rest

/-- The offsets at which the lines of a text start. -/
def lineStarts (text newline : Text) : List Nat :=
  0 :: if newline.isEmpty then [] else startsFrom newline 0 0 text

/-- The lines of a text that begins at `offset`, given where the later lines start. -/
def linesFrom (terminator : Nat) : Nat → Text → List Nat → List Line
  | offset, rest, [] => [⟨rest, offset⟩]
  | offset, rest, next :: later =>
    ⟨rest.take (next - terminator - offset), offset⟩ ::
      linesFrom terminator next (rest.drop (next - offset)) later

/-- The lines of a text. There is at least one. -/
def lines (text newline : Text) : List Line :=
  linesFrom newline.length 0 text (lineStarts text newline).tail

/-- The lines of a text from the given number on, found without building those before. -/
def linesAt (text newline : Text) (number : Nat) : List Line :=
  match (lineStarts text newline).drop number with
  | [] => []
  | start :: later => linesFrom newline.length start (text.drop start) later

/-- The number of lines of a text. -/
def lineCount (text newline : Text) : Nat :=
  (lineStarts text newline).length

/-- The line of the given number of a text whose lines start at `starts`. -/
def lineIn? (starts : List Nat) (text newline : Text) (number : Nat) : Option Line :=
  match starts.drop number with
  | [] => none
  | [start] => some ⟨text.drop start, start⟩
  | start :: next :: _ => some ⟨text.slice start (next - newline.length), start⟩

/-- The line of the given number, found without building the others. -/
def line? (text newline : Text) (number : Nat) : Option Line :=
  lineIn? (lineStarts text newline) text newline number

/-- The position of the offset `i` in a text of the given length whose lines start at `starts`. -/
def positionIn (starts : List Nat) (length : Nat) (i : Int) : Position :=
  if i < 0 ∨ length ≤ i then .nowhere
  else
    let line := starts.countP (· ≤ i.toNat) - 1
    .cell line (i.toNat - starts.getD line 0)

/-- The offset of a position in a text of the given length whose lines start at `starts`. Every line but
the last one extends over its terminator. -/
def offsetIn? (starts : List Nat) (length : Nat) : Position → Option Nat
  | .nowhere => none
  | .cell line column =>
    match starts.drop line with
    | [] => none
    | [start] => if column < length - start then some (start + column) else none
    | start :: next :: _ => if column < next - start then some (start + column) else none

/-- The position of the offset `i`; `nowhere` when `i` is not an offset of the text. -/
def position (text newline : Text) (i : Int) : Position :=
  positionIn (lineStarts text newline) text.length i

/-- The offset of a position of the text. -/
def offset? (text newline : Text) (p : Position) : Option Nat :=
  offsetIn? (lineStarts text newline) text.length p

/-- The positions of the ends of a range. -/
def extent (text newline : Text) (r : Range) : Extent :=
  ⟨text.position newline r.start, text.position newline r.stop⟩

/-- Whether both ends of a range are in the text, on different lines. -/
def spansLines (text newline : Text) (r : Range) : Bool :=
  let e := text.extent newline r
  e.start ≠ .nowhere && e.stop ≠ .nowhere && e.multiLine

end Text

end MarkupLint
