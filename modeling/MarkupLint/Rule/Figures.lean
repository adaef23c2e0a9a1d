import MarkupLint.Advice

/-!
Captions end with a period, figures have labels, labels are referred to, and images are found by relative paths.
Braces are counted, so that commands inside of a caption do not end it.
-/

namespace MarkupLint.Captions

/-- What is reported about the rule. -/
def info : RuleInfo := ⟨"sh:capperiod", "Period at the end of table and figure captions"⟩

/-- The offset of the brace that closes the outermost group with no period before it. The braces open so
far number `level`, `period` tells whether only spaces follow a period, and the text starts at `i`. -/
def openEnd? : Int → Bool → Nat → Text → Option Nat
  | _, _, _, [] => none
  | level, period, i, c :: rest =>
    if c = '{' then openEnd? (level + 1) false (i + 1) rest
    else if c = '}' then
      if level - 1 = 0 ∧ !period then some i else openEnd? (level - 1) false (i + 1) rest
    else if c = '.' then openEnd? level true (i + 1) rest
    else openEnd? level (period && c == ' ') (i + 1) rest

/-- The range of the caption on a line that does not end with a period. -/
def openCaption? (line : Line) : Option Range := do
  let start ← Text.find? "\\caption".toList line.text
  let caption := line.text.drop start
  if "\\captionsetup".toList.isPrefixOf caption then none
  let stop ← openEnd? 0 false (start + 1) (caption.drop 1)
  return .ofSize (line.offset + start) (stop + 1 - start)

/-- The advice of the rule. -/
def evaluate (v : Provenance) : List Advice :=
  (v.document.lines.filterMap openCaption?).map fun r =>
    v.advise info r "A caption should end with a period".toList []

end MarkupLint.Captions

namespace MarkupLint.Figures

/-! ### Labels and references -/

/-- What is reported about the rule on references. -/
def referenceInfo : RuleInfo := ⟨"sh:figref", "Every figure must be referenced"⟩

/-- The start of a figure. -/
def beginFigure : Pattern :=
  .ofSource "\\\\begin\\s*\\\x7b\\s*(?:figure|wrapfigure)\\*?\\s*\\\x7d" Pattern.noFlags

/-- The end of a figure. -/
def endFigure : Pattern :=
  .ofSource "\\\\end\\s*\\\x7b\\s*(?:figure|wrapfigure)\\*?\\s*\\\x7d" Pattern.noFlags

/-- A label, whose name is the group. -/
def label : Pattern := .ofSource "\\\\label\\s*\\\x7b(.*?)\\\x7d" Pattern.noFlags

/-- The pattern, as it is written, of a reference that lists a label. -/
def referenceSource (label : Text) : Text :=
  "\\\\(?:ref|cref|Cref|autoref|vref)\\s*\\\x7b(?:[^\x7d]*,)?\\s*".toList ++ Pattern.escape label ++
    "\\s*(?:,[^\x7d]*)?\\\x7d".toList

/-- The pattern of a reference that lists a label. -/
def reference (label : Text) : Pattern := .trusted (referenceSource label) Pattern.noFlags

/-- What is known on the way through the lines of a document. -/
structure Survey where
  /-- Whether the line is in a figure. -/
  inFigure : Bool
  /-- Whether that figure has a label so far. -/
  labelled : Bool
  /-- The labels of figures with the offsets of their first occurrences, in order. -/
  labels : List (Text × Nat)
  /-- The ranges of the lines that end figures without a label, in order. -/
  unlabelled : List Range
deriving DecidableEq, Repr

/-- Takes up a line. -/
def Survey.step (s : Survey) (line : Line) : Survey :=
  if beginFigure.occursIn line.text then { s with inFigure := true, labelled := false }
  else if endFigure.occursIn line.text then
    let missing := if s.inFigure && !s.labelled then [Range.ofSize line.offset line.text.length] else []
    { s with inFigure := false, unlabelled := s.unlabelled ++ missing }
  else if s.inFigure then
    match (label.search line.text.toArray 0).bind (·.group? 1) with
    | none => s
    | some name =>
      let key := Text.trim name.text
      let new := if s.labels.any (·.1 == key) then [] else [(key, line.offset + name.start)]
      { s with labels := s.labels ++ new, labelled := true }
  else s

/-- What the lines of a document tell about its figures. -/
def survey (d : Document) : Survey := d.lines.foldl Survey.step ⟨false, false, [], []⟩

/-- Whether a document refers to a label. -/
def referred (d : Document) (label : Text) : Bool := (d.find (reference label) 0).isSome

/-- The advice about figures without labels, then about labels without references. -/
def referenceAdvice (v : Provenance) : List Advice :=
  let s := survey v.document
  (s.unlabelled.map fun r => v.advise referenceInfo r "This figure is missing a label".toList []) ++
    (s.labels.filter fun (label, _) => !label.isEmpty && !referred v.document label).map
      fun (label, offset) =>
        v.advise referenceInfo (.ofSize offset label.length)
          ("Figure ".toList ++ label ++ " is never referenced in the text".toList) []

/-! ### Paths of images -/

/-- What is reported about the rule on paths. -/
def pathInfo : RuleInfo := ⟨"sh:relpath", "Absolute paths in figures"⟩

/-- The inclusion of an image, whose path is the group. -/
def graphics : Pattern :=
  .ofSource "\\\\includegraphics\\s*(?:\\[.*?\\])*\\\x7b(.*?)\\\x7d" Pattern.noFlags

/-- Whether a path starts at a drive or at the root, or has two periods in a row. -/
def isAbsolute (path : Text) : Bool :=
  (match path with
    | '/' :: _ => true
    | c :: ':' :: _ => c.isAlpha
    | _ => false) || path.has ['.', '.']

/-- The ranges of the absolute paths on a line. -/
def absolutePaths (line : Line) : List Range :=
  (graphics.findAll line.text).filterMap fun m =>
    (m.group? 1).bind fun path =>
      if path.text.isEmpty || !isAbsolute (Text.trim path.text) then none
      else some (.ofSize (line.offset + path.start) path.text.length)

/-- The advice about absolute paths. -/
def pathAdvice (v : Provenance) : List Advice :=
  (v.document.lines.flatMap absolutePaths).map fun r =>
    v.advise pathInfo r "Do not use an absolute path for a figure".toList []

end MarkupLint.Figures
