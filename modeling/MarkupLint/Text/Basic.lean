/-!
Texts as lists of characters. Every offset and every length of this library counts characters.
The operations here are cutting, searching for a literal piece, trimming and splitting by a character test,
and the same for blanks, which are the white space of Unicode together with the separators U+001C to U+001F.
-/

namespace MarkupLint

/-- A text: its characters in order. -/
abbrev Text := List Char

namespace Text

/-- The characters at the offsets `start`, …, `stop - 1`. -/
def slice (text : Text) (start stop : Nat) : Text :=
  (text.drop start).take (stop - start)

/-! ### Literal pieces -/

/-- The offset of the first occurrence of `piece`; the empty piece occurs at `0`. -/
def find? (piece : Text) : Text → Option Nat
  | [] => if piece.isEmpty then some 0 else none
  | c :: rest =>
    if piece.isPrefixOf (c :: rest) then some 0 else (find? piece rest).map (· + 1)

/-- Whether `piece` occurs in the text. -/
def has (text piece : Text) : Bool :=
  (find? piece text).isSome

/-- The offset of the first occurrence of `piece` at or after `start`. A negative `start` counts from
the end of the text, and no occurrence starts past the end. -/
def findFrom? (piece text : Text) (start : Int) : Option Nat :=
  let first := if start < 0 then (start + text.length).toNat else start.toNat
  if text.length < first then none
  else (find? piece (text.drop first)).map (· + first)

/-- The text without the occurrences of a non-empty piece, taken from the left without overlap;
`skip` characters of an occurrence are still to be dropped. -/
def eraseFrom (piece : Text) : Nat → Text → Text
  | _, [] => []
  | skip + 1, _ :: rest => eraseFrom piece skip rest
  | 0, c :: rest =>
    if piece.isPrefixOf (c :: rest) then eraseFrom piece (piece.length - 1) rest
    else c :: eraseFrom piece 0 rest

/-- The text without the occurrences of a non-empty piece. -/
def eraseAll (text piece : Text) : Text :=
  if piece.isEmpty then text else eraseFrom piece 0 text

/-! ### Trimming and splitting by a test on characters -/

/-- The text without the characters at its end that pass the test. -/
def dropEndWhile (text : Text) (p : Char → Bool) : Text :=
  (text.reverse.dropWhile p).reverse

theorem dropEndWhile_isPrefix (text : Text) (p : Char → Bool) : text.dropEndWhile p <+: text := by
  have h := List.reverse_prefix.2 (List.dropWhile_suffix (l := text.reverse) p)
  rwa [List.reverse_reverse] at h

/-- The maximal pieces without a separating character, in order. There is one more piece than there
are separating characters. -/
def splitOn (p : Char → Bool) : Text → List Text
  | [] => [[]]
  | c :: rest =>
    match splitOn p rest with
    | [] => [[]]
    | piece :: pieces => if p c then [] :: piece :: pieces else (c :: piece) :: pieces

/-- The pieces put together again, with `glue` between neighbours. -/
def join (glue : Text) : List Text → Text
  | [] => []
  | [piece] => piece
  | piece :: pieces => piece ++ glue ++ join glue pieces

/-! ### Blanks -/

/-- Whether a character is blank. -/
def isBlank (c : Char) : Bool :=
  let code := c.toNat
  (0x09 ≤ code && code ≤ 0x0d) || (0x1c ≤ code && code ≤ 0x20) || code == 0x85 || code == 0xa0 ||
    code == 0x1680 || (0x2000 ≤ code && code ≤ 0x200a) || code == 0x2028 || code == 0x2029 ||
    code == 0x202f || code == 0x205f || code == 0x3000

/-- The text without the blanks at its start. -/
def trimStart (text : Text) : Text := text.dropWhile isBlank

/-- The text without the blanks at its end. -/
def trimEnd (text : Text) : Text := text.dropEndWhile isBlank

/-- The text without the blanks at its two ends. -/
def trim (text : Text) : Text := text.trimStart.trimEnd

/-- Whether a text has no character but blanks. -/
def allBlank (text : Text) : Bool := text.all isBlank

/-- The words of a text: its maximal pieces without a blank. -/
def words (text : Text) : List Text :=
  (splitOn isBlank text).filter (!·.isEmpty)

/-! ### Tables of characters

A table lists, in ascending order, the codes at which membership changes, so a code is in the set when an odd
number of entries is not above it. -/

/-- Membership after the entries passed so far is `inside`; passes the entries not above `code`. -/
def crossings (code : Nat) (inside : Bool) : List Nat → Bool
  | [] => inside
  | entry :: later => if code < entry then inside else crossings code (!inside) later

/-- Whether a code is in the set of a table. -/
def inTable (table : List Nat) (code : Nat) : Bool :=
  crossings code false table

end Text

end MarkupLint
