import MarkupLint.Pattern.Node

/-!
Matching by backtracking. A node is run at a place of the subject with a continuation, which stands for
everything after the node; the first way through the node that the continuation accepts is taken.
-/

namespace MarkupLint.Pattern

/-- Where a group started last, and where it stopped last. -/
structure Marks where
  /-- Where it started. -/
  start : Option Nat
  /-- Where it stopped. -/
  stop : Option Nat
deriving DecidableEq, Repr

/-- The start and the stop of what a group matched last. While the group is open, this is the empty text when
its last match stopped where it started anew, and else nothing. -/
def Marks.span? (m : Marks) : Option (Nat × Nat) :=
  match m.start, m.stop with
  | some start, some stop => if start ≤ stop then some (start, stop) else none
  | _, _ => none

/-- How far a match has come: the offset, and what the groups matched last. -/
structure Place where
  /-- The offset reached. -/
  offset : Nat
  /-- The marks of the groups, from group one on. -/
  marks : List Marks
deriving DecidableEq, Repr

namespace Place

/-- The start of a match, before any group has matched. -/
def start (offset groups : Nat) : Place := ⟨offset, List.replicate groups ⟨none, none⟩⟩

/-- The place further on by `n` characters. -/
def forward (p : Place) (n : Nat) : Place := { p with offset := p.offset + n }

/-- The place with the start of a group marked. -/
def enter (p : Place) (number : Nat) : Place :=
  { p with marks := p.marks.modify (number - 1) fun m => { m with start := some p.offset } }

/-- The place with the stop of a group marked. -/
def leave (p : Place) (number : Nat) : Place :=
  { p with marks := p.marks.modify (number - 1) fun m => { m with stop := some p.offset } }

/-- What a group matched last. -/
def captured? (p : Place) (number : Nat) : Option (Nat × Nat) :=
  p.marks[number - 1]?.bind (·.span?)

end Place

/-- What is left to match after a node. -/
abbrev Continuation := Place → Option Place

/-- Whether a character of a class stands at the offset. -/
def holdsAt (s : Array Char) (k : CharClass) (offset : Nat) : Bool :=
  match s[offset]? with
  | some c => k.holds c
  | none => false

/-- Whether a character of words stands at the offset. -/
def wordAt (s : Array Char) (a : Alphabet) (offset : Nat) : Bool :=
  match s[offset]? with
  | some c => Category.word.holds a c
  | none => false

/-- Whether there is an edge of a word at the offset. -/
def wordEdgeAt (s : Array Char) (a : Alphabet) (offset : Nat) : Bool :=
  (0 < offset && wordAt s a (offset - 1)) != wordAt s a offset

/-- Whether an anchor holds at the offset. -/
def Anchor.holds (s : Array Char) (offset : Nat) : Anchor → Bool
  | textStart => offset = 0
  | textEnd => offset = s.size
  | bodyEnd => offset = s.size || (offset + 1 = s.size && s[offset]? = some '\n')
  | lineStart => offset = 0 || s[offset - 1]? = some '\n'
  | lineEnd => offset = s.size || s[offset]? = some '\n'
  | wordEdge a => !s.isEmpty && wordEdgeAt s a offset
  | wordInside a => !s.isEmpty && !wordEdgeAt s a offset

/-- The number of characters of the class from the offset on, `limit` at most. -/
def runLength (s : Array Char) (k : CharClass) : Nat → Nat → Nat
  | 0, _ => 0
  | limit + 1, offset => if holdsAt s k offset then runLength s k limit (offset + 1) + 1 else 0

/-- The greatest number of repetitions that is worth trying at the offset. -/
def reach (s : Array Char) (most : Option Nat) (offset : Nat) : Nat :=
  match most with
  | none => s.size - offset
  | some most => min most (s.size - offset)

/-- Tries `least + extra`, …, `least` and takes the first number that is accepted. -/
def longestFirst (attempt : Nat → Option Place) (least : Nat) : Nat → Option Place
  | 0 => attempt least
  | extra + 1 =>
    match attempt (least + (extra + 1)) with
    | some found => some found
    | none => longestFirst attempt least extra

/-- Tries `n`, `n + 1`, … while characters of the class follow, up to `extra` more, and takes the first
number that is accepted. -/
def shortestFirst (s : Array Char) (k : CharClass) (offset : Nat) (attempt : Nat → Option Place) :
    Nat → Nat → Option Place
  | n, 0 => attempt n
  | n, extra + 1 =>
    match attempt n with
    | some found => some found
    | none =>
      if holdsAt s k (offset + n) then shortestFirst s k offset attempt (n + 1) extra else none

/-- Repeats a body, which has been matched `count` times. Once there are enough repetitions, another one
is tried only at an offset other than `last`, where the previous such repetition began. `fuel` bounds
the number of repetitions. -/
def iterate (body : Continuation → Continuation) (least : Nat) (most : Option Nat) (greed : Greed)
    (next : Continuation) : Nat → Nat → Option Nat → Continuation
  | 0, _, _, _ => none
  | fuel + 1, count, last, p =>
    let again (last : Option Nat) : Option Place :=
      body (iterate body least most greed next fuel (count + 1) last) p
    if count < least then again last
    else
      let more := most.all (count < ·) && last ≠ some p.offset
      match greed with
      | .greedy | .possessive =>
        match if more then again (some p.offset) else none with
        | some found => some found
        | none => next p
      | .lazy =>
        match next p with
        | some found => some found
        | none => if more then again (some p.offset) else none

/-- The first match only of what is run, whatever is left to match after it. -/
def once (body : Continuation → Continuation) : Continuation → Continuation := fun next p =>
  match body some p with
  | some q => next q
  | none => none

/-- Whether two characters are the same, but for case if an alphabet is given. -/
def sameChar (folded : Option Alphabet) (c d : Char) : Bool :=
  match folded with
  | none => c == d
  | some a => a.lowerCode c.toNat == a.lowerCode d.toNat

/-- Whether the characters from `offset` on repeat the `size` characters from `start` on. -/
def repeats (s : Array Char) (folded : Option Alphabet) (start : Nat) : Nat → Nat → Bool
  | 0, _ => true
  | size + 1, offset =>
    match s[start]?, s[offset]? with
    | some c, some d => sameChar folded c d && repeats s folded (start + 1) size (offset + 1)
    | _, _ => false

/-- Runs a node at a place of the subject `s`, with what is left to match after it. -/
def Node.run (s : Array Char) : Node → Continuation → Continuation
  | .empty, next, p => next p
  | .char k, next, p => if holdsAt s k p.offset then next (p.forward 1) else none
  | .chars k least most greed, next, p =>
    match greed with
    | .greedy =>
      let size := runLength s k (reach s most p.offset) p.offset
      if size < least then none
      else longestFirst (fun n => next (p.forward n)) least (size - least)
    | .possessive =>
      let size := runLength s k (reach s most p.offset) p.offset
      if size < least then none else next (p.forward size)
    | .lazy =>
      if runLength s k least p.offset < least then none
      else
        shortestFirst s k p.offset (fun n => next (p.forward n)) least
          (reach s most p.offset - least)
  | .seq a b, next, p => a.run s (b.run s next) p
  | .alt a b, next, p =>
    match a.run s next p with
    | some found => some found
    | none => b.run s next p
  | .group number body, next, p => body.run s (fun q => next (q.leave number)) (p.enter number)
  | .ifMatched number yes no, next, p =>
    if (p.captured? number).isSome then yes.run s next p else no.run s next p
  | .again number folded, next, p =>
    match p.captured? number with
    | none => none
    | some (start, stop) =>
      if repeats s folded start (stop - start) p.offset then next (p.forward (stop - start))
      else none
  | .anchor a, next, p => if a.holds s p.offset then next p else none
  | .ahead false body, next, p =>
    match body.run s some p with
    | some q => next { q with offset := p.offset }
    | none => none
  | .ahead true body, next, p =>
    match body.run s some p with
    | some _ => none
    | none => next p
  | .behind false width body, next, p =>
    if p.offset < width then none
    else
      match body.run s some { p with offset := p.offset - width } with
      | some q => next { q with offset := p.offset }
      | none => none
  | .behind true width body, next, p =>
    if p.offset < width then next p
    else
      match body.run s some { p with offset := p.offset - width } with
      | some _ => none
      | none => next p
  | .loop least most .possessive body, next, p =>
    once (fun next p =>
      iterate (once (body.run s)) least most .possessive next (least + (s.size - p.offset) + 2) 0 none p)
      next p
  | .loop least most greed body, next, p =>
    iterate (body.run s) least most greed next (least + (s.size - p.offset) + 2) 0 none p
  | .atomic body, next, p => once (body.run s) next p

end MarkupLint.Pattern
