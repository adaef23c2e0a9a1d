import MarkupLint.Text.Basic

/-!
Names with wildcards: a star stands for any text, a question mark for any character, and brackets for a
character of a set, or outside of it after an exclamation mark. A bracket that is not closed stands for
itself.
-/

namespace MarkupLint.Text

/-- What a set in brackets lists: a character, or all characters up to another one. -/
abbrev WildItem := Char × Option Char

/-- A part of a name with wildcards. -/
inductive Wild where
  /-- Any text. -/
  | star
  /-- Any character. -/
  | any
  /-- The given character. -/
  | char (c : Char)
  /-- A character that one of the items stands for, or that none stands for. -/
  | set (negated : Bool) (items : List WildItem)
deriving DecidableEq, Repr

/-! ### Reading -/

/-- The items that the inside of brackets lists. -/
def wildItems : Text → List WildItem
  | a :: '-' :: b :: rest => (a, some b) :: wildItems rest
  | a :: rest => (a, none) :: wildItems rest
  | [] => []

/-- Whether an item stands for a character at all: its ends are in order. -/
def isOrdered (item : WildItem) : Bool := item.2.all (item.1 ≤ ·)

/-- The set that the inside of brackets writes. Items whose ends are not in order are left out; an
exclamation mark that comes first then counts as one in the first place. -/
def wildSet (inside : Text) : Wild :=
  match inside with
  | '!' :: rest => .set true ((wildItems rest).filter isOrdered)
  | _ =>
    match (wildItems inside).filter isOrdered with
    | ('!', none) :: items => .set true items
    | ('!', some last) :: items => .set true (('-', none) :: (last, none) :: items)
    | items => .set false items

/-- The start of the inside of brackets: an exclamation mark and a closing bracket there do not close. -/
def bracketStart : Text → Text
  | '!' :: ']' :: _ => ['!', ']']
  | ']' :: _ => [']']
  | _ => []

/-- The inside of brackets, from after the opening one, and the text after them, if they are closed. -/
def bracketed? (text : Text) : Option (Text × Text) :=
  let start := bracketStart text
  match (text.drop start.length).span (· ≠ ']') with
  | (_, []) => none
  | (inside, _ :: after) => some (start ++ inside, after)

/-- The parts of a name with wildcards; `fuel` bounds their number. -/
def wildParts : Nat → Text → List Wild
  | 0, _ => []
  | _, [] => []
  | fuel + 1, c :: rest =>
    match c with
    | '*' => .star :: wildParts fuel rest
    | '?' => .any :: wildParts fuel rest
    | '[' =>
      match bracketed? rest with
      | some (inside, after) => wildSet inside :: wildParts fuel after
      | none => .char '[' :: wildParts fuel rest
    | c => .char c :: wildParts fuel rest

/-! ### Matching -/

/-- Whether an item stands for a character. -/
def itemHolds (item : WildItem) (c : Char) : Bool :=
  match item with
  | (a, none) => a == c
  | (a, some b) => a ≤ c && c ≤ b

/-- Whether a part other than a star stands for a character. -/
def Wild.holds : Wild → Char → Bool
  | star, _ => false
  | any, _ => true
  | char c, d => c == d
  | set negated items, d => items.any (itemHolds · d) != negated

/-- The pieces between the stars. -/
def wildPieces : List Wild → List (List Wild)
  | [] => [[]]
  | .star :: parts => [] :: wildPieces parts
  | part :: parts =>
    match wildPieces parts with
    | piece :: pieces => (part :: piece) :: pieces
    | [] => [[part]]

/-- The text after a piece without stars, if the text starts with what it stands for. -/
def afterPiece? : List Wild → Text → Option Text
  | [], text => some text
  | part :: parts, c :: rest => if part.holds c then afterPiece? parts rest else none
  | _ :: _, [] => none

/-- The text after the first place where a piece without stars fits. -/
def afterFirst? (piece : List Wild) : Text → Option Text
  | [] => afterPiece? piece []
  | c :: rest =>
    match afterPiece? piece (c :: rest) with
    | some after => some after
    | none => afterFirst? piece rest

/-- Whether pieces with a star before each of them stand for a text as a whole. A piece that another star
follows may as well be found in the first place. -/
def piecesMatch : List (List Wild) → Text → Bool
  | [], text => text.isEmpty
  | [last], text =>
    last.length ≤ text.length && afterPiece? last (text.drop (text.length - last.length)) == some []
  | piece :: pieces, text =>
    match afterFirst? piece text with
    | some after => piecesMatch pieces after
    | none => false

/-- Whether a name with wildcards stands for the given name. -/
def matchesWild (wild name : Text) : Bool :=
  match wildPieces (wildParts wild.length wild) with
  | [] => name.isEmpty
  | first :: pieces =>
    match afterPiece? first name with
    | some after => piecesMatch pieces after
    | none => false

end MarkupLint.Text
