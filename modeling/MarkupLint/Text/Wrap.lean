import MarkupLint.Pattern.Basic

/-!
Filling a paragraph: its words are put on lines of a given width. A word may be parted after a hyphen
between letters and around a dash, and a word that is too long for a line anywhere.
-/

namespace MarkupLint.Text

/-! ### Blanks -/

/-- Whether a character is one of the six blanks that may part a line: a space, a tab or a line control. -/
def isLayout (c : Char) : Bool := c == ' ' || (0x09 ≤ c.toNat && c.toNat ≤ 0x0d)

/-- The text with spaces in the place of tabs, up to the next multiple of eight columns. -/
def expandTabs : Nat → Text → Text
  | _, [] => []
  | column, c :: rest =>
    if c = '\t' then
      let n := 8 - column % 8
      List.replicate n ' ' ++ expandTabs (column + n) rest
    else c :: expandTabs (if c = '\n' ∨ c = '\r' then 0 else column + 1) rest

/-- The text as one line, on which only spaces part words. -/
def flatten (text : Text) : Text := (expandTabs 0 text).map fun c => if isLayout c then ' ' else c

/-! ### Chunks -/

/-- A run of spaces, a dash between words, or a word up to its end, a hyphen in it or a dash after it. -/
def chunkPattern : Pattern :=
  .ofSource (" +" ++
    "|(?<=[\\w!\"'&.,?])-\x7b2,\x7d(?=\\w)" ++
    "|[^ ]+?(?:" ++
      "-(?:(?<=[^\\d\\W]\x7b2\x7d-)|(?<=[^\\d\\W]-[^\\d\\W]-))(?=[^\\d\\W]-?[^\\d\\W])" ++
      "|(?= |\\Z)" ++
      "|(?<=[\\w!\"'&.,?])(?=-\x7b2,\x7d\\w))") Pattern.noFlags

/-- The pieces of a line that are not parted, with the spaces between them. -/
def chunks (text : Text) : List Text := (chunkPattern.findAll (flatten text)).map (·.whole.text)

/-! ### Lines -/

/-- As many chunks as fit into `width`, those put on the line already being `used` long. -/
def fitting (width : Int) : Nat → List Text → List Text × List Text
  | _, [] => ([], [])
  | used, chunk :: more =>
    if (used + chunk.length : Int) ≤ width then
      let (line, rest) := fitting width (used + chunk.length) more
      (chunk :: line, rest)
    else ([], chunk :: more)

/-- The offset of the last hyphen among the first `n` characters of a text. -/
def lastHyphen? (text : Text) (n : Nat) : Option Nat :=
  ((text.take n).zipIdx.filter (·.1 == '-')).getLast?.map (·.2)

/-- Where a chunk is parted that is longer than the space left: after the last hyphen that fits and has
another character before it, or else where the space ends. -/
def partingPoint (chunk : Text) (space : Nat) : Nat :=
  if space < chunk.length then
    match lastHyphen? chunk space with
    | some i => if (chunk.take i).any (· ≠ '-') then i + 1 else space
    | none => space
  else space

/-- The chunks of a line, and those left. A chunk that is too long for any line is parted. -/
def fillLine (width : Int) (chunks : List Text) : List Text × List Text :=
  match fitting width 0 chunks with
  | (line, chunk :: more) =>
    if width < chunk.length then
      let used := line.flatten.length
      let space := if width < 1 then 1 else (width - used).toNat
      let point := partingPoint chunk space
      (line ++ [chunk.take point], chunk.drop point :: more)
    else (line, chunk :: more)
  | done => done

/-- The chunks without a blank one in the first place. -/
def dropFirstBlank : List Text → List Text
  | [] => []
  | chunk :: more => if chunk.allBlank then more else chunk :: more

/-- The chunks without a blank one in the last place. -/
def dropLastBlank (line : List Text) : List Text := (dropFirstBlank line.reverse).reverse

/-- The lines of a paragraph, the first of which is indented by `first` and the others by `later`. No
line but the first one of the paragraph begins with blanks. `fuel` bounds the number of rounds. -/
def fillLines (width : Nat) (first later : Text) : Nat → Bool → List Text → List Text
  | 0, _, _ => []
  | _ + 1, _, [] => []
  | fuel + 1, started, chunks =>
    let indent := if started then later else first
    let (line, rest) := fillLine ((width : Int) - indent.length)
      (if started then dropFirstBlank chunks else chunks)
    match dropLastBlank line with
    | [] => fillLines width first later fuel started rest
    | line => (indent ++ line.flatten) :: fillLines width first later fuel true rest

/-- A paragraph of the given width. -/
def fill (text : Text) (width : Nat) (first later : Text) : Text :=
  let cs := chunks text
  join ['\n'] (fillLines width first later (2 * cs.flatten.length + 2) false cs)

end MarkupLint.Text
