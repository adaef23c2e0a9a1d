import MarkupLint.Pattern.CharClass
import MarkupLint.Pattern.Cursor

/-!
The options of a pattern, and reading them from a pattern. Options are written as letters: some to be turned
on and, after a minus sign, some to be turned off.
-/

namespace MarkupLint.Pattern

/-- The options of a pattern. -/
structure Flags where
  /-- Letters match in both cases. -/
  ignoreCase : Bool := false
  /-- The anchors `^` and `$` stand at every line. -/
  multiline : Bool := false
  /-- The dot stands for the line feed as well. -/
  dotAll : Bool := false
  /-- Blanks and comments between the parts of the pattern are passed over. -/
  verbose : Bool := false
  /-- Only ASCII characters have categories and case. -/
  ascii : Bool := false
  /-- All characters have categories and case, which is so anyway. -/
  unicode : Bool := false
  /-- Nothing is repeated. -/
  unrepeated : Bool := false
deriving DecidableEq, Repr

namespace Flags

/-- The characters that have categories and case. -/
def alphabet (f : Flags) : Alphabet := if f.ascii then .ascii else .unicode

/-- The alphabet in which case is ignored, if it is. -/
def folded (f : Flags) : Option Alphabet := if f.ignoreCase then some f.alphabet else none

/-- The class of the given items under the options. -/
def classOf (f : Flags) (items : List ClassItem) (negated : Bool) : CharClass :=
  .ofItems items negated f.alphabet f.ignoreCase

/-- The options with the one of a letter switched. -/
def switch (on : Bool) (f : Flags) : Char → Flags
  | 'i' => { f with ignoreCase := on }
  | 'm' => { f with multiline := on }
  | 's' => { f with dotAll := on }
  | 'x' => { f with verbose := on }
  | 'a' => { f with ascii := on }
  | 'u' => { f with unicode := on }
  | 't' => { f with unrepeated := on }
  | _ => f

end Flags

/-- The letters of options to be turned on and off. -/
structure FlagChange where
  /-- Those to be turned on. -/
  on : Text
  /-- Those to be turned off. -/
  off : Text
deriving DecidableEq, Repr

/-- The options with all of a change turned on. -/
def Flags.extend (f : Flags) (change : FlagChange) : Flags := change.on.foldl (switch true) f

/-- Whether a letter stands for an alphabet. -/
def isAlphabetLetter (e : Char) : Bool := e == 'a' || e == 'u' || e == 'L'

/-- The options inside of a group that makes a change. An alphabet takes the place of the one outside. -/
def Flags.scoped (f : Flags) (change : FlagChange) : Flags :=
  let outside := if change.on.any isAlphabetLetter then { f with ascii := false, unicode := false } else f
  change.off.foldl (switch false) (outside.extend change)

/-! ### Reading options -/

/-- The letters that stand for options. -/
def flagLetters : List Char := ['i', 'L', 'm', 's', 'x', 'a', 't', 'u']

/-- The option letter of a token, if it is one. -/
def Token.flag? : Token → Option Char
  | plain e => if flagLetters.contains e then some e else none
  | escape _ => none

/-- The token at the cursor and the cursor after it; the text must not end here. -/
def nextToken (c : Cursor) (missing : Reason) : Except Fault (Token × Cursor) :=
  match c.token? with
  | none => .error (.atOffset c.offset missing)
  | some token => return (token, ← c.advance)

/-- The fault of a token that is no option letter where one is wanted; the cursor stands after it. -/
def flagFault (otherwise : FlagProblem) (token : Token) (c : Cursor) : Fault :=
  .atOffset (c.offset - token.text.length) <| .flags <|
    match token with
    | .plain e => if Text.isLetter e then .unknown else otherwise
    | .escape _ => otherwise

/-- Refuses a letter that cannot be turned on after the letters in `on`; the cursor stands after it. -/
def checkOn (on : Text) (e : Char) (c : Cursor) : Except Fault Unit :=
  if e = 'L' then .error (.atOffset c.offset (.flags .locale))
  else if isAlphabetLetter e ∧ on.any (fun d => isAlphabetLetter d && d != e) then
    .error (.atOffset c.offset (.flags .mixedAlphabets))
  else .ok ()

/-- The letters to be turned on, from the letter `e` on, and the token that ends them; those read so far are
in `on`, and `fuel` bounds their number. -/
def readOn : Nat → Text → Char → Cursor → Except Fault (Text × Token × Cursor)
  | 0, _, _, c => .error (.atOffset c.offset (.flags .unclosed))
  | fuel + 1, on, e, c => do
    checkOn on e c
    let (token, c) ← nextToken c (.flags .unclosed)
    if token = .plain ')' ∨ token = .plain ':' ∨ token = .plain '-' then return (e :: on, token, c)
    match token.flag? with
    | some e' => readOn fuel (e :: on) e' c
    | none => throw (flagFault .unclosed token c)

/-- The letters to be turned off, from the letter `e` on, up to the colon after them; those read so far are
in `off`, and `fuel` bounds their number. -/
def readOff : Nat → Text → Char → Cursor → Except Fault (Text × Cursor)
  | 0, _, _, c => .error (.atOffset c.offset (.flags .unclosedOff))
  | fuel + 1, off, e, c => do
    if isAlphabetLetter e then throw (.atOffset c.offset (.flags .alphabetOff))
    let (token, c) ← nextToken c (.flags .unclosedOff)
    if token = .plain ':' then return (e :: off, c)
    match token.flag? with
    | some e' => readOff fuel (e :: off) e' c
    | none => throw (flagFault .unclosedOff token c)

/-- The change of options in a parenthesis, whose first token is `token`, and whether a group follows, for
which alone the change is. -/
def readFlags (token : Token) (c : Cursor) : Except Fault (FlagChange × Bool × Cursor) := do
  let fuel := c.rest.length + 1
  let (on, token, c) ← match token.flag? with
    | some e => readOn fuel [] e c
    | none => pure ([], token, c)
  if token = .plain ')' then return (⟨on, []⟩, false, c)
  if on.contains 't' then throw (.atOffset (c.offset - 1) (.flags .globalOn))
  if token = .plain ':' then return (⟨on, []⟩, true, c)
  let (token, c) ← nextToken c (.flags .missing)
  match token.flag? with
  | none => throw (flagFault .missing token c)
  | some e =>
    let (off, c) ← readOff fuel [] e c
    if off.contains 't' then throw (.atOffset (c.offset - 1) (.flags .globalOff))
    if on.any off.contains then throw (.atOffset (c.offset - 1) (.flags .onAndOff))
    return (⟨on, off⟩, true, c)

end MarkupLint.Pattern
