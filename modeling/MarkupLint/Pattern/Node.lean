import MarkupLint.Pattern.CharClass

/-!
The structure of a pattern, and the numbers of characters that a match of it can have.
-/

namespace MarkupLint.Pattern

/-- Which number of repetitions is tried first. -/
inductive Greed where
  /-- As many as possible, then fewer. -/
  | greedy
  /-- As few as possible, then more. -/
  | lazy
  /-- As many as possible, and no fewer. -/
  | possessive
deriving DecidableEq, Repr

/-- A condition on a place between two characters. -/
inductive Anchor where
  /-- The start of the text. -/
  | textStart
  /-- The end of the text. -/
  | textEnd
  /-- The end of the text, or before the line feed that ends it. -/
  | bodyEnd
  /-- The start of the text or after a line feed. -/
  | lineStart
  /-- The end of the text or before a line feed. -/
  | lineEnd
  /-- Between a word character and another character, or an end of a non-empty text. -/
  | wordEdge (a : Alphabet)
  /-- Any place of a non-empty text that is not an edge of a word. -/
  | wordInside (a : Alphabet)
deriving DecidableEq, Repr

/-- A pattern, or a part of one. -/
inductive Node where
  /-- The empty text. -/
  | empty
  /-- One character of a class. -/
  | char (k : CharClass)
  /-- Several characters of a class: `least` or more, up to `most`. -/
  | chars (k : CharClass) (least : Nat) (most : Option Nat) (greed : Greed)
  /-- One node after the other. -/
  | seq (first second : Node)
  /-- One node or, where that leads to no match, the other. -/
  | alt (first second : Node)
  /-- A node whose last match is remembered under a number. -/
  | group (number : Nat) (body : Node)
  /-- The text that a group matched last, but for case if an alphabet is given. -/
  | again (number : Nat) (folded : Option Alphabet)
  /-- One node if a group has matched, else the other. -/
  | ifMatched (number : Nat) (yes no : Node)
  /-- A condition on the place. -/
  | anchor (a : Anchor)
  /-- A match, or no match, of the body starts at the place. -/
  | ahead (negated : Bool) (body : Node)
  /-- A match, or no match, of the body, which is `width` long, ends at the place. -/
  | behind (negated : Bool) (width : Nat) (body : Node)
  /-- Several matches of the body: `least` or more, up to `most`. -/
  | loop (least : Nat) (most : Option Nat) (greed : Greed) (body : Node)
  /-- The first match of the body only. -/
  | atomic (body : Node)
deriving DecidableEq, Repr

namespace Node

/-- Nodes one after the other. -/
def sequence : List Node → Node
  | [] => .empty
  | [only] => only
  | first :: later => .seq first (sequence later)

/-- Nodes as alternatives, the first one first. -/
def choice : List Node → Node
  | [] => .empty
  | [only] => only
  | first :: later => .alt first (choice later)

/-- A node repeated. -/
def repeated (least : Nat) (most : Option Nat) (greed : Greed) : Node → Node
  | .char k => .chars k least most greed
  | body => .loop least most greed body

end Node

/-- Bounds on the number of characters of a match. -/
structure Width where
  /-- No match is shorter. -/
  least : Nat
  /-- No match is longer, if there is a bound. -/
  most : Option Nat
deriving DecidableEq, Repr

namespace Width

/-- The width of exactly `n` characters. -/
def exactly (n : Nat) : Width := ⟨n, some n⟩

/-- The width of two parts after each other. -/
def seq (a b : Width) : Width :=
  ⟨a.least + b.least, a.most.bind fun m => b.most.map (m + ·)⟩

/-- The width of one of two parts. -/
def alt (a b : Width) : Width :=
  ⟨min a.least b.least, a.most.bind fun m => b.most.map (max m)⟩

/-- The width of a repeated part. -/
def loop (a : Width) (least : Nat) (most : Option Nat) : Width :=
  ⟨a.least * least,
    if a.most = some 0 ∨ most = some 0 then some 0 else a.most.bind fun m => most.map (m * ·)⟩

/-- Whether only one number of characters is possible. -/
def isFixed (w : Width) : Bool := w.most = some w.least

end Width

/-- The width of a node, given the widths of the groups. -/
def Node.width (groups : Nat → Width) : Node → Width
  | .empty | .anchor _ | .ahead .. | .behind .. => .exactly 0
  | .char _ => .exactly 1
  | .chars _ least most _ => (Width.exactly 1).loop least most
  | .seq a b => (a.width groups).seq (b.width groups)
  | .alt a b | .ifMatched _ a b => (a.width groups).alt (b.width groups)
  | .group _ body | .atomic body => body.width groups
  | .again number _ => groups number
  | .loop least most _ body => (body.width groups).loop least most

end MarkupLint.Pattern
