import MarkupLint.Text.Basic

/-!
The text of a file. Bytes are read as UTF-8; where they are not UTF-8 they are read as Windows-1252; and
where they are not that either, as UTF-8 with a replacement character for each malformed piece. Files may
come from anywhere, so lines end at line breaks of all kinds; and a line may consist of fields that are
separated by tabs.
-/

namespace MarkupLint.Text

/-! ### Line breaks -/

/-- Whether a character breaks a line. -/
def isLineBreak (c : Char) : Bool :=
  let code := c.toNat
  (0x0a ≤ code && code ≤ 0x0d) || (0x1c ≤ code && code ≤ 0x1e) || code == 0x85 ||
    code == 0x2028 || code == 0x2029

/-- The lines of a text, without their breaks; a carriage return and a line feed are one break, and a
break at the end starts no line. The characters of the line being read are in `line`, last first. -/
def brokenFrom (line : Text) : Text → List Text
  | [] => if line.isEmpty then [] else [line.reverse]
  | '\r' :: '\n' :: rest => line.reverse :: brokenFrom [] rest
  | c :: rest => if isLineBreak c then line.reverse :: brokenFrom [] rest else brokenFrom (c :: line) rest

/-- The lines of a text at line breaks of all kinds. -/
def brokenLines (text : Text) : List Text := brokenFrom [] text

/-- The text with a line feed for every carriage return, and for a carriage return and a line feed. -/
def unifyLineBreaks : Text → Text
  | [] => []
  | '\r' :: '\n' :: rest => '\n' :: unifyLineBreaks rest
  | c :: rest => (if c = '\r' then '\n' else c) :: unifyLineBreaks rest

/-! ### UTF-8 -/

/-- The shape of a character of several bytes: how many bytes follow the first one, the bits that the first
one gives, and the least and the greatest second byte. -/
structure Lead where
  /-- The number of bytes that follow. -/
  more : Nat
  /-- The bits of the first byte. -/
  bits : Nat
  /-- The least second byte. -/
  low : Nat
  /-- The greatest second byte. -/
  high : Nat

/-- The shape that a first byte from `0x80` on announces. Overlong forms, surrogates and codes that are
too large have no shape. -/
def lead? (b : Nat) : Option Lead :=
  if b < 0xc2 then none
  else if b < 0xe0 then some ⟨1, b - 0xc0, 0x80, 0xbf⟩
  else if b < 0xf0 then
    some ⟨2, b - 0xe0, if b = 0xe0 then 0xa0 else 0x80, if b = 0xed then 0x9f else 0xbf⟩
  else if b < 0xf5 then
    some ⟨3, b - 0xf0, if b = 0xf0 then 0x90 else 0x80, if b = 0xf4 then 0x8f else 0xbf⟩
  else none

/-- Reads `more` further bytes of a character, the first of them between `low` and `high`. Gives the code,
if it is complete, and the bytes that are left. -/
def furtherBytes : Nat → Nat → Nat → Nat → List UInt8 → Option Nat × List UInt8
  | 0, code, _, _, bytes => (some code, bytes)
  | _ + 1, _, _, _, [] => (none, [])
  | more + 1, code, low, high, b :: bytes =>
    if low ≤ b.toNat && b.toNat ≤ high then
      furtherBytes more (code * 64 + (b.toNat - 0x80)) 0x80 0xbf bytes
    else (none, b :: bytes)

/-- The characters of bytes as UTF-8, with nothing for each malformed piece; `fuel` bounds their number. -/
def utf8From : Nat → List UInt8 → List (Option Char)
  | 0, _ | _, [] => []
  | fuel + 1, b :: bytes =>
    if b.toNat < 0x80 then some (Char.ofNat b.toNat) :: utf8From fuel bytes
    else
      match lead? b.toNat with
      | none => none :: utf8From fuel bytes
      | some shape =>
        let (code, rest) := furtherBytes shape.more shape.bits shape.low shape.high bytes
        code.map Char.ofNat :: utf8From fuel rest

/-- The characters of bytes as UTF-8, with nothing for each malformed piece. -/
def utf8Pieces (bytes : List UInt8) : List (Option Char) := utf8From bytes.length bytes

/-- The text of bytes that are UTF-8. -/
def ofUtf8? (bytes : List UInt8) : Option Text := (utf8Pieces bytes).mapM id

/-- The text of bytes as UTF-8, with a replacement character for each malformed piece. -/
def ofUtf8Lossy (bytes : List UInt8) : Text := (utf8Pieces bytes).map (·.getD '\ufffd')

/-! ### Windows-1252 -/

/-- The codes of the bytes from `0x80` to `0x9f`; five bytes have none, which is written as zero. -/
def windowsCodes : List Nat :=
  [0x20ac, 0, 0x201a, 0x0192, 0x201e, 0x2026, 0x2020, 0x2021, 0x02c6, 0x2030, 0x0160, 0x2039, 0x0152, 0,
   0x017d, 0, 0, 0x2018, 0x2019, 0x201c, 0x201d, 0x2022, 0x2013, 0x2014, 0x02dc, 0x2122, 0x0161, 0x203a,
   0x0153, 0, 0x017e, 0x0178]

/-- The character of a byte in Windows-1252. -/
def windowsChar? (b : UInt8) : Option Char :=
  if b.toNat < 0x80 ∨ 0xa0 ≤ b.toNat then some (Char.ofNat b.toNat)
  else
    match windowsCodes.getD (b.toNat - 0x80) 0 with
    | 0 => none
    | code => some (Char.ofNat code)

/-- The text of bytes that are Windows-1252. -/
def ofWindows? (bytes : List UInt8) : Option Text := bytes.mapM windowsChar?

/-! ### Files -/

/-- The text of a file. Lines end in line feeds, whatever they end in in the file. -/
def ofFile (bytes : List UInt8) : Text :=
  unifyLineBreaks ((ofUtf8? bytes <|> ofWindows? bytes).getD (ofUtf8Lossy bytes))

/-- The bytes of a text as UTF-8. -/
def toUtf8 (text : Text) : List UInt8 := (String.ofList text).toUTF8.toList

/-! ### Fields

A run of tabs counts as one separator. Blank lines and lines that begin with a number sign hold no fields. -/

/-- Whether a line is blank or a comment. -/
def holdsNoFields (line : Text) : Bool :=
  match line.trim with
  | [] => true
  | c :: _ => c == '#'

/-- A line without carriage returns and line feeds at its end. -/
def chomp (line : Text) : Text := line.dropEndWhile fun c => c == '\r' || c == '\n'

/-- The pieces between runs of tabs. -/
def splitTabs : Text → List Text
  | [] => [[]]
  | c :: rest =>
    if c = '\t' then
      if rest.head? = some '\t' then splitTabs rest else [] :: splitTabs rest
    else
      match splitTabs rest with
      | [] => [[c]]
      | piece :: pieces => (c :: piece) :: pieces

/-- The fields of a line. -/
def fields (line : Text) : List Text := splitTabs line.chomp

/-- The field before the first run of tabs and the text after it, if there is a tab. -/
def keyValue? (line : Text) : Option (Text × Text) :=
  match line.chomp.span (· ≠ '\t') with
  | (_, []) => none
  | (key, rest) => some (key, rest.dropWhile (· = '\t'))

end MarkupLint.Text
