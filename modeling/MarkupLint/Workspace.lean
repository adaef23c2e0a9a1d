import MarkupLint.Document

/-!
Workspaces hold documents that are edited in place and copied. Where the lines of a document start and where
its characters come from is found when a question first needs it, and known until the next edit. What a
document knows passes on to its copies. A history is not shared: a copy gets one of its own.
-/

namespace MarkupLint

/-- A document that is held in a workspace, which keeps its history and the starts of its lines. -/
structure Held where
  /-- The text at first. -/
  initial : Text
  /-- The line terminator. -/
  newline : Text
  /-- Lines end in something. -/
  newline_ne_nil : newline ≠ []
  /-- The name under which the document is reported. -/
  resource : String
  /-- The text now. -/
  current : Text
  /-- Where the starts of its lines are kept, if they are known. -/
  starts : Option Nat
  /-- Where its history is kept. -/
  history : Nat
  /-- The mapping from the initial text to the current text, if it is known. -/
  mapping : Option Mapping

/-- Documents that are held together, in the order in which they came. -/
structure Workspace where
  /-- The documents. -/
  held : List Held
  /-- The starts of lines that are kept, which documents may share. -/
  starts : List (List Nat)
  /-- The histories that are kept, each for one document. -/
  histories : List (List Revision)

/-- A question about a document. -/
inductive Question where
  /-- How many lines there are. -/
  | lineCount
  /-- Which lines there are. -/
  | lines
  /-- Where an offset is. -/
  | position (i : Int)
  /-- Which offset a position has. -/
  | offset (p : Position)
  /-- Which line holds an offset. -/
  | lineOf (i : Int)
  /-- Where a range of the current text comes from. -/
  | toInput (r : Range)
  /-- What has become of a range of the initial text. -/
  | toOutput (r : Range)
  /-- How the initial text and the current text are associated. -/
  | mapping
  /-- What a pattern matches first, at or after an offset. -/
  | find (p : Pattern) (start : Int)

/-- The answer to a question. -/
inductive Reply where
  | number (n : Nat)
  | lines (lines : List Line)
  | position (p : Position)
  | offset (i : Option Nat)
  | line (line : Option Line)
  | ranges (ranges : List Range)
  | mapping (m : Mapping)
  | found (m : Option Found)
deriving DecidableEq, Repr

namespace Workspace

/-- The workspace without documents. -/
def empty : Workspace := ⟨[], [], []⟩

/-- The history of a held document. -/
def historyOf (w : Workspace) (h : Held) : List Revision := w.histories.getD h.history []

/-- A held document as a value. -/
def documentOf (w : Workspace) (h : Held) : Document :=
  ⟨h.initial, h.newline, h.newline_ne_nil, h.resource, h.current, w.historyOf h⟩

/-- The document of the given number. -/
def document? (w : Workspace) (k : Nat) : Option Document := w.held[k]?.map w.documentOf

/-! ### Changes -/

/-- The workspace with one more document, whose history is kept apart from those of the others. -/
def add (w : Workspace) (h : Held) (history : List Revision) : Workspace :=
  { w with
    held := w.held ++ [{ h with history := w.histories.length }]
    histories := w.histories ++ [history] }

/-- The workspace with one more document, of which nothing is known yet. -/
def hold (w : Workspace) (d : Document) : Workspace :=
  w.add { d with starts := none, history := w.histories.length, mapping := none } d.history

/-- The workspace with a copy of a held document. -/
def copy (w : Workspace) (h : Held) : Workspace := w.add h (w.historyOf h)

/-- The workspace after an edit of the document of the given number. -/
def edit (w : Workspace) (k : Nat) (h : Held) (e : Edit) : Except ReplacementError Workspace := do
  let r ← e.apply h.current
  return { w with
    held := w.held.set k { h with current := r.text, starts := none, mapping := none }
    histories := w.histories.modify h.history (· ++ [⟨e, r.mapping, r.capped⟩]) }

/-! ### Questions -/

/-- The starts of the lines of the document of the given number, which are known from then on. -/
def startsOf (w : Workspace) (k : Nat) (h : Held) : List Nat × Workspace :=
  match h.starts.bind (w.starts[·]?) with
  | some starts => (starts, w)
  | none =>
    let starts := h.current.lineStarts h.newline
    (starts, { w with
      held := w.held.set k { h with starts := some w.starts.length }
      starts := w.starts ++ [starts] })

/-- The mapping of the document of the given number, which is known from then on. -/
def mappingOf (w : Workspace) (k : Nat) (h : Held) : Mapping × Workspace :=
  match h.mapping with
  | some m => (m, w)
  | none =>
    let m := (w.documentOf h).composed
    (m, { w with held := w.held.set k { h with mapping := some m } })

/-- The answer that the starts of lines give, once they are known. -/
def askStarts (w : Workspace) (k : Nat) (h : Held) (answer : List Nat → Reply) : Reply × Workspace :=
  let (starts, w) := w.startsOf k h
  (answer starts, w)

/-- The ranges that a mapping associates with the part of a range inside a text of the given length. The
mapping is not needed when there is no such part. -/
def askMapping (w : Workspace) (k : Nat) (h : Held) (r : Range) (length : Nat)
    (track : Mapping → Range → List Range) : Reply × Workspace :=
  match Provenance.clip r length with
  | none => (.ranges [], w)
  | some part =>
    let (m, w) := w.mappingOf k h
    (.ranges (track m part), w)

/-- The answer to a question about the document of the given number. -/
def ask (w : Workspace) (k : Nat) (h : Held) : Question → Reply × Workspace
  | .lineCount => w.askStarts k h fun starts => .number starts.length
  | .lines => w.askStarts k h fun starts =>
    .lines (Text.linesFrom h.newline.length 0 h.current starts.tail)
  | .position i => w.askStarts k h fun starts => .position (Text.positionIn starts h.current.length i)
  | .offset p => w.askStarts k h fun starts => .offset (Text.offsetIn? starts h.current.length p)
  | .lineOf i => w.askStarts k h fun starts =>
    .line (match Text.positionIn starts h.current.length i with
      | .nowhere => none
      | .cell number _ => Text.lineIn? starts h.current h.newline number)
  | .toInput r => w.askMapping k h r h.current.length Mapping.toInput
  | .toOutput r => w.askMapping k h r h.initial.length Mapping.toOutput
  | .mapping =>
    let (m, w) := w.mappingOf k h
    (.mapping m, w)
  | .find p start => (.found ((w.documentOf h).find p start), w)

end Workspace

/-! ### Requests -/

/-- Something to do with the documents of a workspace, which go by their numbers. -/
inductive Request where
  /-- Hold a document that has not been edited. -/
  | create (text newline : Text) (resource : String)
  /-- Hold a copy of a document. -/
  | copy (k : Nat)
  /-- Edit a document. -/
  | edit (k : Nat) (e : Edit)
  /-- Answer a question about a document. -/
  | ask (k : Nat) (q : Question)

/-- What comes of a request. -/
inductive Response where
  /-- It has been met. -/
  | done
  /-- The question has been answered. -/
  | reply (r : Reply)
  /-- There cannot be such a document. -/
  | refused (e : DocumentError)
  /-- The edit has failed. -/
  | failed (e : ReplacementError)
  /-- There is no document of that number. -/
  | unknown
deriving DecidableEq, Repr

namespace Workspace

/-- Meets a request. -/
def step (w : Workspace) : Request → Response × Workspace
  | .create text newline resource =>
    match Document.ofText text newline resource with
    | .ok d => (.done, w.hold d)
    | .error e => (.refused e, w)
  | .copy k =>
    match w.held[k]? with
    | some h => (.done, w.copy h)
    | none => (.unknown, w)
  | .edit k e =>
    match w.held[k]? with
    | some h =>
      match w.edit k h e with
      | .ok w => (.done, w)
      | .error err => (.failed err, w)
    | none => (.unknown, w)
  | .ask k q =>
    match w.held[k]? with
    | some h =>
      let (r, w) := w.ask k h q
      (.reply r, w)
    | none => (.unknown, w)

/-- Meets requests one after the other. -/
def run (w : Workspace) (requests : List Request) : Workspace :=
  requests.foldl (fun w request => (w.step request).2) w

end Workspace

end MarkupLint
