import MarkupLint.Lines
import MarkupLint.Mapping
import MarkupLint.Pattern.Template

/-!
Edits of a text. An edit is a description; applying it gives the new text and the mapping between the
offsets of the old text and those of the new one. Offsets are clamped into the text, and an edit that
finds nothing to do leaves the text alone.
-/

namespace MarkupLint

/-- What takes the place of a match. -/
inductive Replacement where
  /-- A template, filled in with the match. -/
  | template (source : Text)
  /-- A text computed from the match. -/
  | compute (f : Found → Except ReplacementError Text)

namespace Replacement

/-- The text that takes the place of a match of the pattern. -/
def textFor (r : Replacement) (p : Pattern) (m : Found) : Except ReplacementError Text :=
  match r with
  | template source => p.expand source m
  | compute f => f m

/-- The match backwards. -/
def reversed : Replacement := compute fun m => .ok m.whole.text.reverse

/-- The number of characters of the match. -/
def size : Replacement := compute fun m => .ok (toString m.whole.text.length).toList

/-- Nothing. -/
def nothing : Replacement := compute fun _ => .ok []

/-- What a group matched, which the pattern must have. -/
def group (number : Nat) : Replacement :=
  compute fun m => if m.groups.length < number then .error .noGroup else .ok (m.groupText number)

end Replacement

/-- An edit of a text. -/
inductive Edit where
  /-- Keeps the characters from `start` on, up to but without `stop`. -/
  | truncate (start : Int) (stop : Option Int)
  /-- Replaces the first match at or after `start`, or every match from there on. -/
  | replace (pattern : Pattern) (replacement : Replacement) (everywhere : Bool) (start : Int)
  /-- Removes a line together with a terminator. -/
  | removeLine (line : Int) (newline : Text)
  /-- Inserts a text before the character at `index`. -/
  | insertAt (text : Text) (index : Int)
  /-- Keeps the text, whose characters are taken to come from offsets `distance` further on. -/
  | shift (distance : Nat)

/-- A shift by a negative distance. -/
structure ShiftError where
  /-- The distance asked for. -/
  distance : Int
deriving DecidableEq, Repr

/-- The wording of a shift error. -/
def ShiftError.message (e : ShiftError) : String := s!"Shift.by must be >= 0, got {e.distance}"

/-- The result of an edit. -/
structure Edited where
  /-- The new text. -/
  text : Text
  /-- Where its characters come from. -/
  mapping : Mapping
  /-- Whether a replacement stopped at the greatest number of matches. -/
  capped : Bool := false
deriving DecidableEq, Repr

namespace Edit

/-- The greatest number of matches that one edit replaces. -/
def maxMatches : Nat := 10000

/-- The number nearest to `value` between `low` and `high`. -/
def clamp (value : Int) (low high : Nat) : Nat := max low (min value high).toNat

/-- A shift, whose distance must not be negative. -/
def ofShift (distance : Int) : Except ShiftError Edit :=
  if distance < 0 then .error ⟨distance⟩ else .ok (.shift distance.toNat)

/-- The name of an edit. -/
def kind : Edit → String
  | truncate .. => "Truncate"
  | replace .. => "Replace"
  | removeLine .. => "RemoveLine"
  | insertAt .. => "InsertAt"
  | shift .. => "Shift"

/-! ### Applying edits -/

/-- Keeps the characters from `start` on, up to but without `stop`. -/
def truncated (text : Text) (start : Int) (stop : Option Int) : Edited :=
  let first := clamp start 0 text.length
  let last := match stop with
    | none => text.length
    | some stop => clamp stop first text.length
  { text := text.slice first last, mapping := ⟨Pair.copy first 0 (last - first)⟩ }

/-- Removes the characters from `start` on, up to but without `stop`. -/
def cut (text : Text) (start stop : Nat) : Edited :=
  { text := text.take start ++ text.drop stop
    mapping := ⟨Pair.copy 0 0 start ++ Pair.copy stop start (text.length - stop)⟩ }

/-- Removes a line. The last line takes the terminator before it along, every other line its own; a
line that does not exist leaves the text alone. -/
def withoutLine (text : Text) (line : Int) (newline : Text) : Edited :=
  if line < 0 then { text, mapping := .identity text.length }
  else
    match (text.lineStarts newline).drop line.toNat with
    | [] => { text, mapping := .identity text.length }
    | start :: next :: _ => cut text start next
    | [start] =>
      if line = 0 then { text := [], mapping := .empty }
      else cut text (start - newline.length) text.length

/-- Inserts a text. -/
def inserted (text new : Text) (index : Int) : Edited :=
  let point := clamp index 0 text.length
  { text := text.take point ++ new ++ text.drop point
    mapping :=
      ⟨Pair.copy 0 0 point ++ Pair.copy point (point + new.length) (text.length - point)⟩ }

/-- Puts replacements in the place of matches, which are in order. The text from the offset `consumed`
on is `rest`, and `produced` characters have been put out before. -/
def assemble : Nat → Nat → Text → List (Found × Text) → Text × List Pair
  | consumed, produced, rest, [] => (rest, Pair.copy consumed produced rest.length)
  | consumed, produced, rest, (m, new) :: later =>
    let kept := rest.take (m.start - consumed)
    let place := produced + kept.length
    let (text, pairs) :=
      assemble m.stop (place + new.length) (rest.drop (m.stop - consumed)) later
    (kept ++ new ++ text,
      Pair.copy consumed produced kept.length ++
        Pair.ofSizes m.start m.size place new.length ++ pairs)

/-- The matches that a replacement takes up. -/
def targets (text : Text) (p : Pattern) (everywhere : Bool) (start : Int) : List Found :=
  p.scan text.toArray (if everywhere then maxMatches else 1) (clamp start 0 text.length)

/-- Replaces matches. -/
def replaced (text : Text) (p : Pattern) (r : Replacement) (everywhere : Bool) (start : Int) :
    Except ReplacementError Edited := do
  let found := targets text p everywhere start
  let news ← found.mapM (r.textFor p)
  let (new, pairs) := assemble 0 0 text (found.zip news)
  let capped := everywhere && found.length == maxMatches &&
    found.getLast?.any fun m => m.resume ≤ text.length
  return { text := new, mapping := ⟨pairs⟩, capped }

/-- Applies an edit. Only a replacement can fail. -/
def apply (e : Edit) (text : Text) : Except ReplacementError Edited :=
  match e with
  | truncate start stop => .ok (truncated text start stop)
  | replace p r everywhere start => replaced text p r everywhere start
  | removeLine line newline => .ok (withoutLine text line newline)
  | insertAt new index => .ok (inserted text new index)
  | shift distance => .ok { text, mapping := ⟨Pair.copy distance 0 text.length⟩ }

end Edit

end MarkupLint
