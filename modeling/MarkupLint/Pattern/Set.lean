import MarkupLint.Pattern.Part
import MarkupLint.Text.CharName

/-!
Reading a character set, from after its opening bracket.
-/

namespace MarkupLint.Pattern

/-- The category of an escaped letter. -/
def categoryEscape? : Char → Option ClassItem
  | 'd' => some (.category .digit false)
  | 'D' => some (.category .digit true)
  | 's' => some (.category .blank false)
  | 'S' => some (.category .blank true)
  | 'w' => some (.category .word false)
  | 'W' => some (.category .word true)
  | _ => none

/-- The refusal of an escape that was read up to the cursor. -/
def refuse (c : Cursor) (escape : Text) (reason : Text → Reason) : Fault :=
  .atOffset (c.offset - escape.length) (reason escape)

/-- The code written by exactly `width` hexadecimal digits after the escaped letter `e`. -/
def hexEscape (e : Char) (width : Nat) (c : Cursor) : Except Fault (Nat × Cursor) := do
  let (digits, c) ← c.takeWhile isHex width
  let escape := '\\' :: e :: digits
  if digits.length ≠ width then throw (refuse c escape .shortEscape)
  let code := numeral 16 digits
  if 0x10ffff < code then throw (refuse c escape .badEscape)
  return (code, c)

/-- The code of the character whose name stands in braces at the cursor. -/
def namedEscape (c : Cursor) : Except Fault (Nat × Cursor) := do
  let (opened, c) ← c.accept '{'
  if !opened then throw (.atOffset c.offset (.missingOpening '{'))
  let (name, c) ← c.charName
  match Text.codeNamed? name with
  | some code => return (code, c)
  | none => throw (.atOffset (c.offset - (name.length + 4)) (.unknownChar name))

/-- The code of an escape of a fixed shape, in or outside of a set, if `e` starts one. -/
def codeEscape? (e : Char) (c : Cursor) : Option (Except Fault (Nat × Cursor)) :=
  match e with
  | 'x' => some (hexEscape e 2 c)
  | 'u' => some (hexEscape e 4 c)
  | 'U' => some (hexEscape e 8 c)
  | 'N' => some (namedEscape c)
  | _ => none

/-- The item of an escape in a set, where `e` is the escaped character and the cursor stands after it. -/
def setEscape (e : Char) (c : Cursor) : Except Fault (ClassItem × Cursor) :=
  match controlEscape? e, categoryEscape? e, codeEscape? e c with
  | some control, _, _ => .ok (.char control.toNat, c)
  | none, some item, _ => .ok (item, c)
  | none, none, some code => do
    let (code, c) ← code
    return (.char code, c)
  | none, none, none =>
    if isOctal e then do
      let (digits, c) ← c.takeWhile isOctal 2
      let code := numeral 8 (e :: digits)
      if 0o377 < code then throw (refuse c ('\\' :: e :: digits) .largeOctal)
      return (.char code, c)
    else if e.isAlphanum then .error (refuse c ['\\', e] .badEscape)
    else .ok (.char e.toNat, c)

/-- The item that a token of a set stands for, and the cursor after it; `c` stands after the token. -/
def setItem (token : Token) (c : Cursor) : Except Fault (ClassItem × Cursor) :=
  match token with
  | .plain e => .ok (.char e.toNat, c)
  | .escape e => setEscape e c

/-- The items of a set, last first, and the cursor after its closing bracket. The set opened at the
offset `opening`; `fuel` bounds the number of tokens. A closing bracket in the first place is an item. -/
def setItems (opening : Nat) : Nat → List ClassItem → Cursor → Except Fault (List ClassItem × Cursor)
  | 0, _, _ => .error (.atOffset opening .unclosedSet)
  | fuel + 1, items, c =>
    match c.token? with
    | none => .error (.atOffset opening .unclosedSet)
    | some first => do
      let afterFirst ← c.advance
      if first = .plain ']' ∧ !items.isEmpty then return (items, afterFirst)
      let (item, c) ← setItem first afterFirst
      let (dash, c) ← c.accept '-'
      if !dash then return ← setItems opening fuel (item :: items) c
      match c.token? with
      | none => throw (.atOffset opening .unclosedSet)
      | some last =>
        let afterLast ← c.advance
        if last = .plain ']' then return (.char '-'.toNat :: item :: items, afterLast)
        let (end_, c) ← setItem last afterLast
        match item, end_ with
        | .char low, .char high =>
          if low ≤ high then setItems opening fuel (.codes low high :: items) c
          else throw (refuse c (first.text ++ '-' :: last.text) fun _ => .badRange first.text last.text)
        | _, _ =>
          throw (refuse c (first.text ++ '-' :: last.text) fun _ => .badRange first.text last.text)

/-- A character set, from the cursor after its opening bracket at the offset `opening`. A set of one
character is that character. -/
def readSet (opening : Nat) (c : Cursor) : Except Fault (Part × Cursor) := do
  let (negated, c) ← c.accept '^'
  let (items, c) ← setItems opening (c.rest.length + 1) [] c
  match items.reverse.eraseDups, negated with
  | [.char code], false => return (.char code, c)
  | items, negated => return (.set items negated, c)

end MarkupLint.Pattern
