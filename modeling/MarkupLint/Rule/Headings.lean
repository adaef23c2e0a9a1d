import MarkupLint.Advice

/-!
Headings: text between two of them, more than one part in a divided section, no level left out, and
sections of some length. A line has the heading of its first sectioning command.
-/

namespace MarkupLint.Headings

/-- The sectioning commands, outermost first. -/
def commands : List Text :=
  ["part".toList, "chapter".toList, "section".toList, "subsection".toList, "subsubsection".toList,
   "paragraph".toList]

/-- A sectioning command, whose name is the group. -/
def heading : Pattern :=
  .ofSource "\\\\(part|chapter|section|subsection|subsubsection|paragraph)\\*?\\s*\\\x7b" Pattern.noFlags

/-- A sectioning command of a section whose length counts. -/
def sizedHeading : Pattern :=
  .ofSource "\\\\(chapter|section|subsection|subsubsection)\\*?\\s*\\\x7b" Pattern.noFlags

/-- A section that is open, on the way through a document. -/
structure Section where
  /-- Its sectioning command. -/
  command : Text
  /-- The range of the name of the command. -/
  range : Range
  /-- The number of headings directly under it so far. -/
  children : Nat
  /-- The number of words in it so far. -/
  words : Nat
deriving DecidableEq, Repr

/-- The level of a section; the outermost one is zero. -/
def Section.level (s : Section) : Nat := commands.idxOf s.command

/-- The section that a line opens. -/
def openedBy? (p : Pattern) (line : Line) : Option Section :=
  ((p.search line.text.toArray 0).bind (·.group? 1)).map fun name =>
    ⟨name.text, .ofSize (line.offset + name.start) name.text.length, 0, 0⟩

/-- Parts the open sections, innermost first, into those that a heading of the given level closes and
those that stay open. -/
def closedBy (level : Nat) (sections : List Section) : List Section × List Section :=
  sections.span (level ≤ ·.level)

/-! ### Stacked headings -/

/-- What is reported about the rule on stacked headings. -/
def stackedInfo : RuleInfo := ⟨"sh:stacked", "Stacked headings"⟩

/-- The headings that no text parts from the heading before. The state tells whether there has been text
since the last heading. -/
def stacked : Bool → List Line → List Range
  | _, [] => []
  | text, line :: lines =>
    match openedBy? heading line with
    | none => stacked (text || !line.text.allBlank) lines
    | some s => (if text then [] else [s.range]) ++ stacked false lines

/-- The advice about stacked headings. -/
def stackedAdvice (v : Provenance) : List Advice :=
  (stacked true v.document.lines).map fun r =>
    v.advise stackedInfo r
      "Avoid stacked headings, i.e. consecutive headings without text in between.".toList []

/-! ### Divided sections -/

/-- What is reported about the rule on divided sections. -/
def divisionInfo : RuleInfo := ⟨"sh:nsubdiv", "Sections with a single sub-section"⟩

/-- The innermost section with one more heading under it. -/
def addChild : List Section → List Section
  | [] => []
  | s :: outer => { s with children := s.children + 1 } :: outer

/-- The sections in the order in which they close, given the open ones, innermost first. -/
def closing : List Section → List Line → List Section
  | sections, [] => sections
  | sections, line :: lines =>
    match openedBy? heading line with
    | none => closing sections lines
    | some s =>
      let (closed, outer) := closedBy s.level sections
      closed ++ closing (s :: addChild outer) lines

/-- The advice about sections with one heading under them. -/
def divisionAdvice (v : Provenance) : List Advice :=
  ((closing [] v.document.lines).filter (·.children == 1)).map fun s =>
    v.advise divisionInfo s.range
      "If a section has sub-sections, it should have more than one such sub-section.".toList []

/-! ### Levels left out -/

/-- What is reported about the rule on levels. -/
def levelInfo : RuleInfo := ⟨"sh:secskip", "Skipped heading levels"⟩

/-- Whether a heading under another one leaves out a level; under a part it may have any level. -/
def skipsLevel (parent s : Section) : Bool :=
  parent.command != "part".toList && parent.level + 1 < s.level

/-- The headings that leave out a level, each after the heading that contains it. -/
def skipping : List Section → List Line → List (Section × Section)
  | _, [] => []
  | sections, line :: lines =>
    match openedBy? heading line with
    | none => skipping sections lines
    | some s =>
      let outer := (closedBy s.level sections).2
      (outer.head?.toList.filter (skipsLevel · s)).map (·, s) ++ skipping (s :: outer) lines

/-- The advice about levels left out. -/
def levelAdvice (v : Provenance) : List Advice :=
  (skipping [] v.document.lines).map fun (parent, s) =>
    v.advise levelInfo s.range
      ("A ".toList ++ s.command ++ " should not appear directly under a ".toList ++ parent.command ++
        "; a level is missing in between.".toList) []

/-! ### Short sections -/

/-- What is reported about the rule on lengths. -/
def sizeInfo : RuleInfo := ⟨"sh:seclen", "Short sub-sections"⟩

/-- The sections in the order in which they close, with their words counted. -/
def sizing : List Section → List Line → List Section
  | sections, [] => sections
  | sections, line :: lines =>
    match openedBy? sizedHeading line with
    | none =>
      let words := line.text.words.length
      sizing (sections.map fun s => { s with words := s.words + words }) lines
    | some s =>
      let (closed, outer) := closedBy s.level sections
      closed ++ sizing (s :: outer) lines

/-- The advice about sections with fewer than `least` words. -/
def sizeAdvice (least : Int) (v : Provenance) : List Advice :=
  ((sizing [] v.document.lines).filter fun s => s.words < least).map fun s =>
    v.advise sizeInfo s.range
      ("This ".toList ++ s.command ++ " is very short (about ".toList ++ (toString s.words).toList ++
        " words). You should consider merging it with another section or make it longer.".toList) []

end MarkupLint.Headings
