import MarkupLint.Pattern.Error

/-!
Reading a pattern or a template from left to right. A backslash and the character after it are read
together. A backslash that ends the text is refused as soon as everything before it has been read.
-/

namespace MarkupLint.Pattern

/-- What is read in one step. -/
inductive Token where
  /-- A character other than the backslash. -/
  | plain (c : Char)
  /-- A backslash and the character after it. -/
  | escape (c : Char)
deriving DecidableEq, Repr

/-- The characters of a token. -/
def Token.text : Token → Text
  | plain c => [c]
  | escape c => ['\\', c]

/-- A place in the text that is read. -/
structure Cursor where
  /-- The offset of the place. -/
  offset : Nat
  /-- The characters from there on. -/
  rest : Text
deriving DecidableEq, Repr

namespace Cursor

/-- The cursor, unless only a lone backslash is left. -/
def checked (c : Cursor) : Except Fault Cursor :=
  if c.rest = ['\\'] then .error (.atOffset c.offset .danglingBackslash) else .ok c

/-- The start of a text. -/
def ofText (source : Text) : Except Fault Cursor := checked ⟨0, source⟩

/-- The token at the cursor, if there is one. -/
def token? (c : Cursor) : Option Token :=
  match c.rest with
  | [] => none
  | '\\' :: e :: _ => some (.escape e)
  | e :: _ => some (.plain e)

/-- The cursor after the token. -/
def advance (c : Cursor) : Except Fault Cursor :=
  match c.rest with
  | [] => .ok c
  | '\\' :: _ :: rest => checked ⟨c.offset + 2, rest⟩
  | _ :: rest => checked ⟨c.offset + 1, rest⟩

/-- Whether the given character stands at the cursor, and the cursor after it if so. -/
def accept (c : Cursor) (expected : Char) : Except Fault (Bool × Cursor) :=
  if c.token? = some (.plain expected) then return (true, ← c.advance) else return (false, c)

/-- The character at the cursor, if it is plain and passes the test. -/
def plain? (c : Cursor) (p : Char → Bool) : Option Char :=
  match c.token? with
  | some (.plain e) => if p e then some e else none
  | _ => none

/-- Up to `n` plain characters that pass the test, and the cursor after them. -/
def takeWhile (p : Char → Bool) : Nat → Cursor → Except Fault (Text × Cursor)
  | 0, c => .ok ([], c)
  | n + 1, c =>
    match c.plain? p with
    | some e => do
      let (more, c) ← takeWhile p n (← c.advance)
      return (e :: more, c)
    | none => .ok ([], c)

/-- The name from the cursor up to `terminator`, and the cursor after that. The characters read so far
are in `name`, last first; an empty name is refused for the reason `missing`, and `fuel` bounds the
number of tokens. -/
def nameFrom (terminator : Char) (missing : Reason) : Nat → Text → Cursor → Except Fault (Text × Cursor)
  | 0, _, c => .error (.atOffset c.offset missing)
  | fuel + 1, name, c => do
    let next ← c.advance
    match c.token? with
    | none =>
      if name.isEmpty then .error (.atOffset next.offset missing)
      else .error (.atOffset (next.offset - name.length) (.unclosedName terminator))
    | some token =>
      if token = .plain terminator then
        if name.isEmpty then .error (.atOffset c.offset missing)
        else return (name.reverse, next)
      else nameFrom terminator missing fuel (token.text.reverse ++ name) next

/-- The name of a group from the cursor up to `terminator`, and the cursor after that. -/
def nameUntil (c : Cursor) (terminator : Char) : Except Fault (Text × Cursor) :=
  nameFrom terminator .missingGroupName (c.rest.length + 1) [] c

/-- The name of a character from the cursor up to a closing brace, and the cursor after that. -/
def charName (c : Cursor) : Except Fault (Text × Cursor) :=
  nameFrom '}' .missingCharName (c.rest.length + 1) [] c

end Cursor

/-! ### Characters of escapes -/

/-- The characters that an escaped letter stands for. -/
def controlEscape? : Char → Option Char
  | 'a' => some '\x07'
  | 'b' => some '\x08'
  | 'f' => some '\x0c'
  | 'n' => some '\n'
  | 'r' => some '\r'
  | 't' => some '\t'
  | 'v' => some '\x0b'
  | '\\' => some '\\'
  | _ => none

/-- Whether a character is an ASCII octal digit. -/
def isOctal (c : Char) : Bool := '0' ≤ c && c ≤ '7'

/-- Whether a character is an ASCII hexadecimal digit. -/
def isHex (c : Char) : Bool := c.isDigit || ('a' ≤ c && c ≤ 'f') || ('A' ≤ c && c ≤ 'F')

/-- The value of an ASCII digit of a base up to sixteen. -/
def digitOf (c : Char) : Nat :=
  if c.isDigit then c.toNat - 48 else if c.isUpper then c.toNat - 55 else c.toNat - 87

/-- The number that ASCII digits write in the given base. -/
def numeral (base : Nat) (digits : Text) : Nat :=
  digits.foldl (fun n c => base * n + digitOf c) 0

end MarkupLint.Pattern
