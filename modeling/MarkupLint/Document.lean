import MarkupLint.Edit

/-!
Documents: a text that has been edited, together with what it was at first and the edits made since.
Every character of the current text can be asked where it comes from, and every character of the
initial text what has become of it. A document is a value: an edit gives a new document.
-/

namespace MarkupLint

/-- An edit that was made, and the mapping it gave. -/
structure Revision where
  /-- The edit. -/
  edit : Edit
  /-- Where the characters come from. -/
  mapping : Mapping
  /-- Whether a replacement stopped at the greatest number of matches. -/
  capped : Bool

/-- An edited text with its history. -/
structure Document where
  /-- The text at first. -/
  initial : Text
  /-- The line terminator. -/
  newline : Text
  /-- Lines end in something. -/
  newline_ne_nil : newline ≠ []
  /-- The name under which the document is reported. -/
  resource : String
  /-- The text now. -/
  current : Text
  /-- The edits, first to last. -/
  history : List Revision

/-- Why a document cannot be made, or a line of it not be had. -/
inductive DocumentError where
  /-- The line terminator is empty. -/
  | emptyNewline
  /-- There is no such line. -/
  | noLine (number : Int)
deriving DecidableEq, Repr

/-- The wording of a document error. -/
def DocumentError.message : DocumentError → String
  | emptyNewline => "newline must be a non-empty string"
  | noLine number => s!"Line {number} does not exist"

namespace Document

/-- A document that has not been edited. -/
def ofText (text newline : Text) (resource : String) : Except DocumentError Document :=
  if h : newline = [] then .error .emptyNewline
  else .ok ⟨text, newline, h, resource, text, []⟩

/-- A document with the usual line terminator. -/
def ofLines (text : Text) (resource : String) : Document :=
  ⟨text, Text.lineFeed, by decide, resource, text, []⟩

/-- The mappings of the edits, first to last. -/
def mappings (d : Document) : List Mapping := d.history.map (·.mapping)

/-- The document in a line for a reader. -/
def render (d : Document) : String :=
  s!"AnnotatedString({d.current.quoted}, stages={d.history.length}, resource={Text.quoted d.resource.toList})"

/-! ### Edits -/

/-- The document after an edit with the given result. -/
def record (d : Document) (edit : Edit) (result : Edited) : Document :=
  { d with
    current := result.text
    history := d.history ++ [⟨edit, result.mapping, result.capped⟩] }

/-- The document after an edit. -/
def apply (d : Document) (edit : Edit) : Except ReplacementError Document :=
  return d.record edit (← edit.apply d.current)

/-- The document after an edit that cannot fail. -/
def revise (d : Document) (edit : Edit) : Document := (d.apply edit).toOption.getD d

/-- The document without a line. -/
def removeLine (d : Document) (line : Int) : Document := d.revise (.removeLine line d.newline)

/-- Goes through the lines and removes those that `judge` tells to remove. `judge` sees each line with a
state and gives the next state. The line looked at has the number `i`, and `ahead` are the lines of the
document from there on; `fuel` bounds the number of lines looked at. The end of the document is also
reached when nothing is left of it. -/
def sweepFrom {σ : Type} (judge : σ → Text → Bool × σ) :
    Nat → Nat → List Line → σ → Document → σ × Document
  | 0, _, _, s, d => (s, d)
  | _, _, [], s, d => (s, d)
  | fuel + 1, i, line :: later, s, d =>
    if d.current.isEmpty then (s, d)
    else
      let (remove, s) := judge s line.text
      if remove then
        let d := d.removeLine i
        sweepFrom judge fuel i (d.current.linesAt d.newline i) s d
      else sweepFrom judge fuel (i + 1) later s d

/-- Removes the lines that `judge` tells to remove, and gives its last state as well. -/
def sweep {σ : Type} (d : Document) (judge : σ → Text → Bool × σ) (s : σ) : σ × Document :=
  let ahead := d.current.lines d.newline
  sweepFrom judge ahead.length 0 ahead s d

/-! ### Questions about the current text -/

/-- The first match at or after `start`. -/
def find (d : Document) (p : Pattern) (start : Int) : Option Found :=
  if d.current.length < start then none else p.search d.current.toArray start.toNat

/-- The lines. -/
def lines (d : Document) : List Line := d.current.lines d.newline

/-- The line of the given number. -/
def line (d : Document) (number : Int) : Except DocumentError Line :=
  lineIn d.current number
where
  /-- The line of the given number of a text. -/
  lineIn (text : Text) (number : Int) : Except DocumentError Line :=
    match if number < 0 then none else text.line? d.newline number.toNat with
    | some line => .ok line
    | none => .error (.noLine number)

/-- The line of the given number of the initial text. -/
def initialLine (d : Document) (number : Int) : Except DocumentError Line :=
  line.lineIn d d.initial number

/-- The position of an offset. -/
def position (d : Document) (i : Int) : Position := d.current.position d.newline i

/-- The position of an offset in the initial text. -/
def initialPosition (d : Document) (i : Int) : Position := d.initial.position d.newline i

/-- The line of a text that holds an offset. -/
def lineAt? (d : Document) (text : Text) (i : Int) : Option Line :=
  match text.position d.newline i with
  | .nowhere => none
  | .cell number _ => text.line? d.newline number

/-- The line that holds an offset. -/
def lineOf? (d : Document) (i : Int) : Option Line := d.lineAt? d.current i

/-- The line of the initial text that holds an offset. -/
def initialLineOf? (d : Document) (i : Int) : Option Line := d.lineAt? d.initial i

/-! ### Provenance -/

/-- The mapping from the initial text to the current text. -/
def composed (d : Document) : Mapping :=
  (Mapping.composeAll d.mappings).getD (.identity d.initial.length)

end Document

/-- A document with its mapping from the initial text to the current text at hand. -/
structure Provenance where
  /-- The document. -/
  document : Document
  /-- Its mapping. -/
  mapping : Mapping

/-- The provenance of a document. -/
def Document.provenance (d : Document) : Provenance := ⟨d, d.composed⟩

namespace Provenance

/-- The part of a range inside a text of the given length. -/
def clip (r : Range) (length : Nat) : Option Range :=
  (Range.whole? length).bind r.intersect

/-- The ranges of the initial text that a range of the current text comes from. -/
def toInput (v : Provenance) (r : Range) : List Range :=
  match clip r v.document.current.length with
  | none => []
  | some part => v.mapping.toInput part

/-- The ranges of the current text that come from a range of the initial text. -/
def toOutput (v : Provenance) (r : Range) : List Range :=
  match clip r v.document.initial.length with
  | none => []
  | some part => v.mapping.toOutput part

/-- The smallest range of the initial text around all that a range of the current text comes from. -/
def backward (v : Provenance) (r : Range) : Option Range := Range.unite (v.toInput r)

/-- The smallest range of the current text around all that comes from a range of the initial text. -/
def forward (v : Provenance) (r : Range) : Option Range := Range.unite (v.toOutput r)

/-- The offset in the initial text of the character at a position of the current text. -/
def initialOffset? (v : Provenance) (p : Position) : Option Nat := do
  let i ← v.document.current.offset? v.document.newline p
  let r ← v.backward (.single i)
  return r.start

end Provenance

end MarkupLint
