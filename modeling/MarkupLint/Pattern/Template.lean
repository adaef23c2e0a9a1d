import MarkupLint.Pattern.Basic

/-!
Replacement templates. A template is text with references to the groups of a match, `\1` or `\g<1>` or
`\g<name>`, and with escapes for characters.
-/

namespace MarkupLint

/-- Why the replacement for a match cannot be made. -/
inductive ReplacementError where
  /-- The template is malformed. -/
  | malformed (source : Text) (fault : Pattern.Fault)
  /-- The template names a group that the pattern does not have. -/
  | unknownName (name : Text)
  /-- A group was asked for by a number that the pattern does not have. -/
  | noGroup
deriving DecidableEq, Repr

/-- The wording of a replacement error. -/
def ReplacementError.message : ReplacementError → String
  | malformed source fault => fault.message source
  | unknownName name => s!"unknown group name {name.quoted}"
  | noGroup => "no such group"

namespace Pattern

/-- A piece of a template. -/
inductive TemplatePiece where
  /-- A character. -/
  | char (c : Char)
  /-- What a group matched. -/
  | group (number : Nat)
deriving DecidableEq, Repr

/-- What stops the reading of a template. -/
abbrev TemplateFault := Fault ⊕ Text

/-- A step of the cursor, in the reading of a template. -/
def lift {α : Type} (step : Except Fault α) : Except TemplateFault α :=
  step.mapError .inl

/-- A reference to the group of the given number, which the pattern must have; the cursor stands after
the reference, whose number starts `back` characters before it. -/
def groupPiece (p : Pattern) (number back : Nat) (c : Cursor) : Except TemplateFault TemplatePiece :=
  if p.groups < number then .error (.inl (.atOffset (c.offset - back) (.noSuchGroup number)))
  else .ok (.group number)

/-- A reference by a name or a number in angle brackets, from the cursor after the letter `g`. -/
def namedPiece (p : Pattern) (c : Cursor) : Except TemplateFault (TemplatePiece × Cursor) := do
  let (opened, c) ← lift (c.accept '<')
  if !opened then throw (.inl (.atOffset c.offset (.missingOpening '<')))
  let (name, c) ← lift (c.nameUntil '>')
  if Text.isIdentifier name then
    match p.names.lookup name with
    | some number => return (.group number, c)
    | none => throw (.inr name)
  match Text.integer? name with
  | some (.ofNat number) => return (← groupPiece p number (name.length + 1) c, c)
  | _ => throw (.inl (.atOffset (c.offset - (name.length + 1)) (.badGroupName name)))

/-- A reference by a number, or a character code in octal: `e` is the first digit, and is not zero. -/
def digitPiece (p : Pattern) (e : Char) (c : Cursor) : Except TemplateFault (TemplatePiece × Cursor) := do
  let (second, c) ← lift (c.takeWhile Char.isDigit 1)
  let (third, c) ←
    if (e :: second).all isOctal && !second.isEmpty then lift (c.takeWhile isOctal 1) else pure ([], c)
  let digits := e :: second ++ third
  if !third.isEmpty then
    let code := numeral 8 digits
    if 0o377 < code then throw (.inl (refuse c ('\\' :: digits) .largeOctal))
    return (.char (Char.ofNat code), c)
  return (← groupPiece p (numeral 10 digits) digits.length c, c)

/-- The pieces of an escape, where `e` is the escaped character and the cursor stands after it. The
backslash before a character that is no ASCII letter stays. -/
def escapePieces (p : Pattern) (e : Char) (c : Cursor) :
    Except TemplateFault (List TemplatePiece × Cursor) := do
  if e = 'g' then
    let (piece, c) ← namedPiece p c
    return ([piece], c)
  if e = '0' then
    let (digits, c) ← lift (c.takeWhile isOctal 2)
    return ([.char (Char.ofNat (numeral 8 digits))], c)
  if e.isDigit then
    let (piece, c) ← digitPiece p e c
    return ([piece], c)
  match controlEscape? e with
  | some control => return ([.char control], c)
  | none =>
    if e.isAlpha then throw (.inl (refuse c ['\\', e] .badEscape))
    return ([.char '\\', .char e], c)

/-- The pieces of a template from the cursor on; `fuel` bounds the number of tokens. -/
def templatePieces (p : Pattern) : Nat → Cursor → Except TemplateFault (List TemplatePiece)
  | 0, _ => .ok []
  | fuel + 1, c =>
    match c.token? with
    | none => .ok []
    | some token => do
      let after ← lift c.advance
      let (pieces, c) ← match token with
        | .plain e => pure ([.char e], after)
        | .escape e => escapePieces p e after
      return pieces ++ (← templatePieces p fuel c)

/-- The pieces of a template for the matches of a pattern. -/
def readTemplate (p : Pattern) (template : Text) : Except ReplacementError (List TemplatePiece) :=
  let pieces : Except TemplateFault (List TemplatePiece) := do
    templatePieces p template.length (← lift (Cursor.ofText template))
  pieces.mapError fun
    | .inl fault => .malformed template fault
    | .inr name => .unknownName name

/-- A template filled in with a match. -/
def expand (p : Pattern) (template : Text) (m : Found) : Except ReplacementError Text := do
  let pieces ← p.readTemplate template
  return pieces.flatMap fun
    | .char c => [c]
    | .group number => m.groupText number

end Pattern

end MarkupLint
