import MarkupLint.Pattern.Flags
import MarkupLint.Pattern.Node

/-!
The parts of a pattern as they are read, before it is known what stands next to them. Alternatives that
begin alike share their beginning, and alternatives of single characters make one class.
-/

namespace MarkupLint.Pattern

/-- A part of a pattern. -/
inductive Part where
  /-- A character. -/
  | char (code : Nat)
  /-- A character of a set, or one outside of it. -/
  | set (items : List ClassItem) (negated : Bool)
  /-- Any character, save a line feed where the options say so. -/
  | any
  /-- A condition on the place. -/
  | anchor (a : Anchor)
  /-- The text that a group matched last. -/
  | again (number : Nat)
  /-- Anything else. -/
  | node (n : Node)
deriving DecidableEq, Repr

namespace Part

/-- The node of a part under the options. -/
def toNode (f : Flags) : Part → Node
  | char code => .char (f.classOf [.char code] false)
  | set items negated => .char (f.classOf items negated)
  | any => .char (if f.dotAll then .all else .allButLineFeed)
  | anchor a => .anchor a
  | again number => .again number f.folded
  | node n => n

/-- The node of parts one after the other. -/
def sequence (f : Flags) (parts : List Part) : Node := .sequence (parts.map (·.toNode f))

/-- Whether alternatives may share a part. -/
def isShareable : Part → Bool
  | node _ => false
  | _ => true

/-- The beginning that two alternatives share. -/
def shared : List Part → List Part → List Part
  | a :: as, b :: bs => if a = b ∧ a.isShareable then a :: shared as bs else []
  | _, _ => []

/-- The set of an alternative that is a single character or a set. -/
def items? : List Part → Option (List ClassItem)
  | [char code] => some [.char code]
  | [set items false] => some items
  | _ => none

/-- The parts of a choice between alternatives. -/
def choice (f : Flags) : List (List Part) → List Part
  | [] => []
  | [only] => only
  | first :: others =>
    let start := others.foldl shared first
    let rests := (first :: others).map (·.drop start.length)
    match rests.mapM items? with
    | some items => start ++ [set items.flatten.eraseDups false]
    | none => start ++ [node (.choice (rests.map (sequence f)))]

end Part

end MarkupLint.Pattern
