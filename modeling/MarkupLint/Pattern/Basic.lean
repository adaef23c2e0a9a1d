import MarkupLint.Pattern.Matcher
import MarkupLint.Pattern.Parser

/-!
Patterns and their matches in a text: the first match from an offset on, a match of the whole text, and
the scan over all matches; and patterns that match a given text.
-/

namespace MarkupLint

/-- A pattern that has been read. -/
structure Pattern where
  /-- The pattern as it is written. -/
  source : Text
  /-- What it consists of. -/
  node : Pattern.Node
  /-- The number of its groups. -/
  groups : Nat
  /-- The names of groups, with their numbers. -/
  names : List (Text × Nat)
deriving DecidableEq, Repr

/-- A pattern that cannot be read, and why. -/
structure PatternError where
  /-- The pattern as it is written. -/
  source : Text
  /-- What is wrong with it. -/
  fault : Pattern.Fault
deriving DecidableEq, Repr

namespace PatternError

/-- Whether the error lies in the writing of the pattern. -/
def isMalformed (e : PatternError) : Bool := e.fault.reason.isMalformed

/-- The wording of a pattern error, which names the pattern when the error lies in its writing. -/
def message (e : PatternError) : String :=
  let why := e.fault.message e.source
  if e.isMalformed then s!"Invalid pattern {e.source.quoted}: {why}" else why

end PatternError

/-- A stretch of a text. -/
structure Capture where
  /-- The offset of its first character. -/
  start : Nat
  /-- The offset after its last character. -/
  stop : Nat
  /-- Its characters. -/
  text : Text
deriving DecidableEq, Repr

/-- A match of a pattern. -/
structure Found where
  /-- The whole match. -/
  whole : Capture
  /-- What the groups matched, from group one on. -/
  groups : List (Option Capture)
deriving DecidableEq, Repr

namespace Found

/-- The offset at which the match starts. -/
def start (m : Found) : Nat := m.whole.start

/-- The offset after the match. -/
def stop (m : Found) : Nat := m.whole.stop

/-- The number of characters of the match. -/
def size (m : Found) : Nat := m.stop - m.start

/-- What a group matched; group zero is the whole match. -/
def group? (m : Found) : Nat → Option Capture
  | 0 => some m.whole
  | number + 1 => (m.groups[number]?).join

/-- The text that a group matched, empty when it took no part. -/
def groupText (m : Found) (number : Nat) : Text :=
  match m.group? number with
  | some capture => capture.text
  | none => []

/-- Where to look for the next match: after this one, and past the next character after an empty one. -/
def resume (m : Found) : Nat := if m.start < m.stop then m.stop else m.stop + 1

end Found

namespace Pattern

/-- Reads a pattern. -/
def compile (source : Text) (flags : Flags) : Except PatternError Pattern :=
  match read source flags with
  | .ok r => .ok ⟨source, r.level.node, r.groups, r.names⟩
  | .error fault => .error ⟨source, fault⟩

/-- The pattern that matches nothing, for a source that cannot be read. -/
def never (source : Text) : Pattern := ⟨source, .ahead true .empty, 0, []⟩

/-- A pattern whose source can be read. -/
def trusted (source : Text) (flags : Flags) : Pattern :=
  (compile source flags).toOption.getD (never source)

/-- A pattern of this library, whose source can be read. -/
def ofSource (source : String) (flags : Flags) : Pattern := trusted source.toList flags

/-- No option. -/
def noFlags : Flags := {}

/-- The option of anchors at every line. -/
def multiline : Flags := { multiline := true }

/-- The stretch of the subject between two offsets. -/
def captureOf (s : Array Char) (start stop : Nat) : Capture :=
  ⟨start, stop, (s.extract start stop).toList⟩

/-- The match that starts at `start` and has come to the place `p`. -/
def foundAt (s : Array Char) (start : Nat) (p : Place) : Found :=
  ⟨captureOf s start p.offset, p.marks.map fun m => m.span?.map fun (a, b) => captureOf s a b⟩

/-- The match that starts at the given offset. -/
def matchAt (p : Pattern) (s : Array Char) (start : Nat) : Option Found :=
  (p.node.run s some (.start start p.groups)).map (foundAt s start)

/-- The first match that starts at one of the `fuel` offsets from `start` on. -/
def searchFrom (p : Pattern) (s : Array Char) : Nat → Nat → Option Found
  | 0, _ => none
  | fuel + 1, start =>
    match p.matchAt s start with
    | some m => some m
    | none => searchFrom p s fuel (start + 1)

/-- The first match that starts at the given offset or later. What comes before the offset is seen by
anchors and look-behinds. -/
def search (p : Pattern) (s : Array Char) (start : Nat) : Option Found :=
  p.searchFrom s (s.size + 1 - start) start

/-- Whether the pattern matches somewhere in a text. -/
def occursIn (p : Pattern) (text : Text) : Bool := (p.search text.toArray 0).isSome

/-- Whether the pattern matches a text as a whole. -/
def matchesWhole (p : Pattern) (text : Text) : Bool :=
  let s := text.toArray
  (p.node.run s (fun q => if q.offset = s.size then some q else none) (.start 0 p.groups)).isSome

/-- The matches from the offset `start` on, from the left without overlap, `limit` at most. -/
def scan (p : Pattern) (s : Array Char) : Nat → Nat → List Found
  | 0, _ => []
  | limit + 1, start =>
    match p.search s start with
    | none => []
    | some m => m :: scan p s limit m.resume

/-- All matches in a text, from the left without overlap. -/
def findAll (p : Pattern) (text : Text) : List Found :=
  p.scan text.toArray (text.length + 1) 0

/-! ### Quoting

A text is quoted inside a pattern, so that it matches itself. -/

/-- The characters that a pattern may give a meaning of its own to. -/
def specialChars : List Char :=
  ['(', ')', '[', ']', '{', '}', '?', '*', '+', '-', '|', '^', '$', '\\', '.', '&', '~', '#', ' ',
   '\t', '\n', '\r', '\x0b', '\x0c']

/-- A character as a pattern that matches it. -/
def escapeChar (c : Char) : List Char :=
  if specialChars.contains c then ['\\', c] else [c]

/-- A text as a pattern that matches it. -/
def escape (text : Text) : Text := text.flatMap escapeChar

end Pattern

end MarkupLint
