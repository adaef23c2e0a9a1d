import MarkupLint.Pattern.Set
import MarkupLint.Text.Identifier

/-!
Reading a pattern. The pattern is read once, from left to right; a stack holds the groups that are open.
Every step reads one item, alternative bar, parenthesis or repetition, so the number of characters
bounds the number of steps.
-/

namespace MarkupLint.Pattern

/-- What a repetition must know about the element before it. -/
inductive ElementKind where
  /-- May be repeated. -/
  | plain
  /-- A condition on the place, which is not repeated. -/
  | anchor
  /-- A repetition, which is not repeated again. -/
  | repeated
deriving DecidableEq, Repr

/-- What is repeated as one: a part, or the parts of a group that does nothing but hold them together. -/
structure Element where
  /-- The parts. -/
  parts : List Part
  /-- What a repetition must know. -/
  kind : ElementKind
deriving DecidableEq, Repr

/-- How an open group was opened. -/
inductive Opening where
  /-- The whole pattern. -/
  | whole
  /-- A group that remembers its match. -/
  | capture (number : Nat)
  /-- A group that only holds its parts together. -/
  | plain
  /-- A group with options of its own. -/
  | scoped
  /-- A group of which the first match counts. -/
  | atomic
  /-- A look-ahead. -/
  | ahead (negated : Bool)
  /-- A look-behind; `limit` is what the limit on group references was outside of it. -/
  | behind (negated : Bool) (limit : Option Nat)
  /-- A choice by whether a group has matched. -/
  | conditional (number : Nat)
deriving DecidableEq, Repr

/-- An open group. -/
structure Level where
  /-- How it was opened. -/
  opening : Opening
  /-- The offset of its parenthesis. -/
  offset : Nat
  /-- The options in force. -/
  flags : Flags
  /-- The finished alternatives, last first. -/
  branches : List (List Part)
  /-- The elements of the alternative being read, last first. -/
  elements : List Element
deriving DecidableEq, Repr

/-- What has been read of a pattern. -/
structure Reading where
  /-- The innermost open group. -/
  level : Level
  /-- The groups around it, innermost first. -/
  outer : List Level
  /-- The number of remembering groups opened so far. -/
  groups : Nat
  /-- The names of groups, with their numbers. -/
  names : List (Text × Nat)
  /-- The widths of the closed remembering groups. -/
  widths : List (Nat × Width)
  /-- Inside a look-behind, the number from which on groups may not be referred to. -/
  limit : Option Nat
  /-- The numbers of groups that choices go by, with the offsets where they stand, last first. -/
  conditions : List (Nat × Nat)
deriving DecidableEq, Repr

namespace Level

/-- A group just opened. -/
def opened (opening : Opening) (offset : Nat) (flags : Flags) : Level := ⟨opening, offset, flags, [], []⟩

/-- Whether nothing has been read of the group. -/
def isFresh (l : Level) : Bool := l.branches.isEmpty && l.elements.isEmpty

/-- The group with one more element. -/
def push (l : Level) (parts : List Part) (kind : ElementKind) : Level :=
  { l with elements := ⟨parts, kind⟩ :: l.elements }

/-- The parts of the alternative being read. -/
def parts (l : Level) : List Part := l.elements.reverse.flatMap (·.parts)

/-- The alternatives, the one being read included. -/
def alternatives (l : Level) : List (List Part) := (l.parts :: l.branches).reverse

/-- The group with its alternative finished and another one begun. -/
def split (l : Level) : Level := { l with branches := l.parts :: l.branches, elements := [] }

/-- The parts of the group. -/
def body (l : Level) : List Part := Part.choice l.flags l.alternatives

/-- The node of the parts of the group. -/
def node (l : Level) : Node := Part.sequence l.flags l.body

/-- The node of one of the alternatives, empty when there is none. -/
def branch (l : Level) (index : Nat) : Node := Part.sequence l.flags (l.alternatives.getD index [])

end Level

namespace Reading

/-- Nothing read yet. -/
def start (flags : Flags) : Reading := ⟨.opened .whole 0 flags, [], 0, [], [], none, []⟩

/-- One more part in the innermost group. -/
def push (r : Reading) (part : Part) : Reading := { r with level := r.level.push [part] .plain }

/-- A condition on the place in the innermost group. -/
def pushAnchor (r : Reading) (a : Anchor) : Reading := { r with level := r.level.push [.anchor a] .anchor }

/-- A group opened inside the innermost one. -/
def open_ (r : Reading) (opening : Opening) (offset : Nat) (flags : Flags) : Reading :=
  { r with level := .opened opening offset flags, outer := r.level :: r.outer }

/-- A group opened inside the innermost one, with the same options. -/
def openWith (r : Reading) (opening : Opening) (offset : Nat) : Reading :=
  r.open_ opening offset r.level.flags

/-- A remembering group opened. -/
def openCapture (r : Reading) (offset : Nat) : Reading :=
  { r.openWith (.capture (r.groups + 1)) offset with groups := r.groups + 1 }

/-- The width of a closed group. -/
def widthOf (r : Reading) (number : Nat) : Width := (r.widths.lookup number).getD (.exactly 0)

/-- The innermost group closed, and made an element of the group `outside` around it. -/
def close (r : Reading) (outside : Level) (outer : List Level) : Reading :=
  let l := r.level
  let back (parts : List Part) : Reading := { r with level := outside.push parts .plain, outer }
  match l.opening with
  | .whole | .plain => back l.body
  | .scoped => back [.node l.node]
  | .capture number =>
    { back [.node (.group number l.node)] with widths := (number, l.node.width r.widthOf) :: r.widths }
  | .atomic => back [.node (.atomic l.node)]
  | .ahead negated => back [.node (.ahead negated l.node)]
  | .behind negated limit =>
    { back [.node (.behind negated (l.node.width r.widthOf).least l.node)] with limit }
  | .conditional number => back [.node (.ifMatched number (l.branch 0) (l.branch 1))]

/-- Whether a group has been closed. -/
def isClosed (r : Reading) (number : Nat) : Bool := (r.widths.lookup number).isSome

/-- Refuses to refer, in a look-behind, to a group that is open or opened inside of it. The cursor stands
after the reference. -/
def checkLimit (r : Reading) (number : Nat) (c : Cursor) : Except Fault Unit :=
  match r.limit with
  | none => .ok ()
  | some limit =>
    if !r.isClosed number then .error (.atOffset c.offset .openGroup)
    else if limit ≤ number then .error (.atOffset c.offset .groupInSameLookBehind)
    else .ok ()

/-- A reference to a group, refused while the group is open. The cursor stands after the reference, which
started at the offset `start`. -/
def pushAgain (r : Reading) (number start : Nat) (c : Cursor) : Except Fault Reading := do
  if !r.isClosed number then throw (.atOffset start .openGroup)
  r.checkLimit number c
  return r.push (.again number)

end Reading

/-! ### Escapes outside of sets -/

/-- The anchor of an escaped letter. -/
def anchorEscape? (a : Alphabet) : Char → Option Anchor
  | 'A' => some .textStart
  | 'Z' => some .textEnd
  | 'b' => some (.wordEdge a)
  | 'B' => some (.wordInside a)
  | _ => none

/-- A reference to a group, or a character code in octal: `e` is the first digit, and is not zero. Three
octal digits make a code, and one or two digits a reference. -/
def digitEscape (r : Reading) (e : Char) (c : Cursor) : Except Fault (Reading × Cursor) := do
  let (second, c) ← c.takeWhile Char.isDigit 1
  let (third, c) ← if (e :: second).all isOctal && !second.isEmpty then c.takeWhile isOctal 1 else pure ([], c)
  let digits := e :: second ++ third
  if !third.isEmpty then
    let code := numeral 8 digits
    if 0o377 < code then throw (refuse c ('\\' :: digits) .largeOctal)
    return (r.push (.char code), c)
  let number := numeral 10 digits
  if r.groups < number then throw (refuse c digits fun _ => .noSuchGroup number)
  return (← r.pushAgain number (c.offset - digits.length - 1) c, c)

/-- An escape outside of a set, where `e` is the escaped character and the cursor stands after it. -/
def readEscape (r : Reading) (e : Char) (c : Cursor) : Except Fault (Reading × Cursor) :=
  match anchorEscape? r.level.flags.alphabet e, categoryEscape? e, controlEscape? e, codeEscape? e c with
  | some a, _, _, _ => .ok (r.pushAnchor a, c)
  | none, some item, _, _ => .ok (r.push (.set [item] false), c)
  | none, none, some control, _ => .ok (r.push (.char control.toNat), c)
  | none, none, none, some code => do
    let (code, c) ← code
    return (r.push (.char code), c)
  | none, none, none, none =>
    if e = '0' then do
      let (digits, c) ← c.takeWhile isOctal 2
      return (r.push (.char (numeral 8 digits)), c)
    else if e.isDigit then digitEscape r e c
    else if e.isAlpha then .error (refuse c ['\\', e] .badEscape)
    else .ok (r.push (.char e.toNat), c)

/-! ### Repetitions -/

/-- No number of repetitions is as great. -/
def repeatLimit : Nat := 0xffffffff

/-- A bound of a repetition, absent when there are no digits. -/
def readBound (digits : Text) : Except Fault (Option Nat) :=
  if digits.isEmpty then .ok none
  else if Text.maxDigits < digits.length then .error (.ofWhole (.longNumber digits.length))
  else
    let bound := numeral 10 digits
    if bound < repeatLimit then .ok (some bound) else .error (.ofWhole .largeRepeat)

/-- The bounds of a repetition in braces, from the cursor after the opening brace; nothing when the
braces do not hold bounds, so that the brace stands for itself. -/
def readBounds (c : Cursor) : Except Fault (Option (Nat × Option Nat × Cursor)) := do
  if c.token? = some (.plain '}') then return none
  let (low, c₁) ← c.takeWhile Char.isDigit c.rest.length
  let (comma, c₂) ← c₁.accept ','
  let (high, c₃) ← if comma then c₂.takeWhile Char.isDigit c₂.rest.length else pure (low, c₂)
  let (closed, c₄) ← c₃.accept '}'
  if !closed then return none
  let least := (← readBound low).getD 0
  let most ← readBound high
  if most.any (· < least) then throw (.atOffset c.offset .reversedRepeat)
  return some (least, most, c₄)

/-- Repeats the last element. The repetition stands at `offset`, and the cursor after it, where a question
mark asks for few repetitions and a plus sign for no fewer than possible. -/
def readRepeat (r : Reading) (least : Nat) (most : Option Nat) (offset : Nat) (c : Cursor) :
    Except Fault (Reading × Cursor) :=
  match r.level.elements with
  | [] | ⟨_, .anchor⟩ :: _ => .error (.atOffset offset .nothingToRepeat)
  | ⟨_, .repeated⟩ :: _ => .error (.atOffset offset .repeatedRepeat)
  | ⟨parts, .plain⟩ :: earlier => do
    let (few, c) ← c.accept '?'
    let (only, c) ← if few then pure (false, c) else c.accept '+'
    let greed := if few then .lazy else if only then .possessive else .greedy
    let node := (Part.sequence r.level.flags parts).repeated least most greed
    return ({ r with level := { r.level with elements := ⟨[.node node], .repeated⟩ :: earlier } }, c)

/-! ### Groups -/

/-- Options in a parenthesis at `offset`, from the token `token` on. They hold for the whole pattern,
at whose start they must stand, or for the group that they open. -/
def readOptions (r : Reading) (offset : Nat) (token : Token) (c : Cursor) :
    Except Fault (Reading × Cursor) := do
  let (change, grouped, c) ← readFlags token c
  if grouped then return (r.open_ .scoped offset (r.level.flags.scoped change), c)
  if r.level.opening = .whole ∧ r.level.isFresh then
    return ({ r with level := { r.level with flags := r.level.flags.extend change } }, c)
  throw (.atOffset offset .lateFlags)

/-- The end of a comment that opened at `offset`; `fuel` bounds the number of tokens. -/
def skipComment (offset : Nat) : Nat → Cursor → Except Fault Cursor
  | 0, _ => .error (.atOffset offset .unclosedComment)
  | fuel + 1, c =>
    match c.token? with
    | none => .error (.atOffset offset .unclosedComment)
    | some token => do
      let c ← c.advance
      if token = .plain ')' then return c else skipComment offset fuel c

/-- A named group or a reference to one, from the cursor after the letter `P`. -/
def readNamed (r : Reading) (offset : Nat) (c : Cursor) : Except Fault (Reading × Cursor) := do
  let (definition, c) ← c.accept '<'
  if definition then
    let (name, c) ← c.nameUntil '>'
    let place := c.offset - (name.length + 1)
    if !Text.isIdentifier name then throw (.atOffset place (.badGroupName name))
    match r.names.lookup name with
    | some earlier => throw (.atOffset place (.groupRedefined name (r.groups + 1) earlier))
    | none =>
      return ({ r.openCapture offset with names := (name, r.groups + 1) :: r.names }, c)
  let (reference, c) ← c.accept '='
  if reference then
    let (name, c) ← c.nameUntil ')'
    let place := c.offset - (name.length + 1)
    if !Text.isIdentifier name then throw (.atOffset place (.badGroupName name))
    match r.names.lookup name with
    | none => throw (.atOffset place (.unknownGroup name))
    | some number => return (← r.pushAgain number place c, c)
  let (token, _) ← nextToken c .unexpectedEnd
  throw (.atOffset (offset + 1) (.unknownExtension ('?' :: 'P' :: token.text)))

/-- No number of groups is as great. -/
def groupLimit : Nat := 0x3fffffff

/-- The number of the group that a choice goes by, which a name or a number at the offset `place` tells. A
number may be that of a group to come. -/
def readCondition (r : Reading) (name : Text) (place : Nat) : Except Fault (Reading × Nat) := do
  if Text.isIdentifier name then
    match r.names.lookup name with
    | none => throw (.atOffset place (.unknownGroup name))
    | some number => return (r, number)
  match Text.integer? name with
  | none | some (.negSucc _) => throw (.atOffset place (.badGroupName name))
  | some (.ofNat number) =>
    if number = 0 then throw (.atOffset place .badGroupNumber)
    if groupLimit ≤ number then throw (.atOffset place (.noSuchGroup number))
    return ({ r with conditions := (number, place) :: r.conditions }, number)

/-- A choice by whether a group has matched, from the cursor after its second parenthesis. -/
def readConditional (r : Reading) (offset : Nat) (c : Cursor) : Except Fault (Reading × Cursor) := do
  let (name, c) ← c.nameUntil ')'
  let (r, number) ← readCondition r name (c.offset - (name.length + 1))
  r.checkLimit number c
  return (r.openWith (.conditional number) offset, c)

/-- A group, from the cursor after its opening parenthesis, which stands at `offset`. -/
def readGroup (r : Reading) (offset : Nat) (c : Cursor) : Except Fault (Reading × Cursor) := do
  let (extended, c) ← c.accept '?'
  if !extended then return (r.openCapture offset, c)
  let (token, c) ← nextToken c .unexpectedEnd
  match token with
  | .plain 'P' => readNamed r offset c
  | .plain ':' => return (r.openWith .plain offset, c)
  | .plain '#' => return (r, ← skipComment offset (c.rest.length + 1) c)
  | .plain '=' => return (r.openWith (.ahead false) offset, c)
  | .plain '!' => return (r.openWith (.ahead true) offset, c)
  | .plain '<' =>
    let (sign, c) ← nextToken c .unexpectedEnd
    if sign ≠ .plain '=' ∧ sign ≠ .plain '!' then
      throw (.atOffset (offset + 1) (.unknownExtension ('?' :: '<' :: sign.text)))
    let inside := r.openWith (.behind (sign = .plain '!') r.limit) offset
    return ({ inside with limit := some (r.limit.getD (r.groups + 1)) }, c)
  | .plain '(' => readConditional r offset c
  | .plain '>' => return (r.openWith .atomic offset, c)
  | _ =>
    if token.flag?.isSome ∨ token = .plain '-' then readOptions r offset token c
    else throw (.atOffset (offset + 1) (.unknownExtension ('?' :: token.text)))

/-! ### The whole pattern -/

/-- Refuses options that exclude each other. -/
def Reading.checkAlphabets (r : Reading) : Except Fault Unit :=
  if r.level.flags.ascii ∧ r.level.flags.unicode then .error (.ofWhole .mixedAlphabets) else .ok ()

/-- What cannot go on at the token at the cursor: a closing parenthesis without an opening one, and a third
alternative of a choice by a group. -/
def Reading.checkToken (r : Reading) (token : Token) (here : Cursor) : Except Fault Unit := do
  if token = .plain ')' ∧ r.outer.isEmpty then
    r.checkAlphabets
    throw (.atOffset here.offset .unopenedGroup)
  match r.level.opening with
  | .conditional _ =>
    if token = .plain '|' ∧ !r.level.branches.isEmpty then
      throw (.atOffset here.offset .tooManyBranches)
  | _ => return

/-- The characters that stand for nothing where blanks are passed over. -/
def isSpacing (e : Char) : Bool := e == ' ' || ('\t' ≤ e && e ≤ '\r')

/-- The cursor after the line of a comment; `fuel` bounds the number of tokens. -/
def skipLine : Nat → Cursor → Except Fault Cursor
  | 0, c => .ok c
  | fuel + 1, c =>
    match c.token? with
    | none => .ok c
    | some token => do
      let c ← c.advance
      if token = .plain '\n' then return c else skipLine fuel c

/-- Reads what the plain character `e` at the offset `offset` begins; the cursor stands after it. -/
def readPlain (r : Reading) (e : Char) (offset : Nat) (c : Cursor) : Except Fault (Reading × Cursor) := do
  let f := r.level.flags
  if f.verbose ∧ isSpacing e then return (r, c)
  if f.verbose ∧ e = '#' then return (r, ← skipLine (c.rest.length + 1) c)
  match e with
  | '|' => return ({ r with level := r.level.split }, c)
  | ')' =>
    match r.outer with
    | [] => return (r, c)
    | outside :: outer => return (r.close outside outer, c)
  | '[' =>
    let (part, c) ← readSet offset c
    return (r.push part, c)
  | '?' => readRepeat r 0 (some 1) offset c
  | '*' => readRepeat r 0 none offset c
  | '+' => readRepeat r 1 none offset c
  | '{' =>
    match ← readBounds c with
    | none => return (r.push (.char '{'.toNat), c)
    | some (least, most, c) => readRepeat r least most offset c
  | '.' => return (r.push .any, c)
  | '(' => readGroup r offset c
  | '^' => return (r.pushAnchor (if f.multiline then .lineStart else .textStart), c)
  | '$' => return (r.pushAnchor (if f.multiline then .lineEnd else .bodyEnd), c)
  | e => return (r.push (.char e.toNat), c)

/-- Reads what the token at the cursor `here` begins. -/
def readToken (r : Reading) (token : Token) (here : Cursor) : Except Fault (Reading × Cursor) := do
  r.checkToken token here
  let c ← here.advance
  match token with
  | .escape e => readEscape r e c
  | .plain e => readPlain r e here.offset c

/-- Reads the rest of a pattern; `fuel` bounds the number of tokens. -/
def readAll : Nat → Reading → Cursor → Except Fault Reading
  | 0, r, _ => .ok r
  | fuel + 1, r, c =>
    match c.token? with
    | none => .ok r
    | some token => do
      let (r, c) ← readToken r token c
      readAll fuel r c

/-! ### What is checked at the end -/

/-- The name of a repetition in a complaint about it. -/
def Greed.operator : Greed → String
  | greedy => "MAX_REPEAT"
  | lazy => "MIN_REPEAT"
  | possessive => "POSSESSIVE_REPEAT"

/-- The greatest width of a look-behind. -/
def maxLookBehind : Nat := 0xffffffff

/-- What is wrong with the width of a look-behind. -/
def Width.lookBehindReason? (w : Width) : Option Reason :=
  if maxLookBehind < w.least then some .longLookBehind
  else if w.isFixed then none else some .raggedLookBehind

/-- The first node, from the outside and from the left, that is refused: a look-behind that has no fixed
width or a large one, and a repetition where nothing is repeated. -/
def Node.reason? (unrepeated : Bool) (groups : Nat → Width) : Node → Option Reason
  | .empty | .char _ | .again .. | .anchor _ => none
  | .chars _ _ _ greed => if unrepeated then some (.refusedRepeat greed.operator) else none
  | .seq a b | .alt a b | .ifMatched _ a b =>
    (a.reason? unrepeated groups).or (b.reason? unrepeated groups)
  | .group _ body | .atomic body | .ahead _ body => body.reason? unrepeated groups
  | .behind _ _ body =>
    (body.width groups).lookBehindReason?.or (body.reason? unrepeated groups)
  | .loop _ _ greed body =>
    if unrepeated then some (.refusedRepeat greed.operator) else body.reason? unrepeated groups

/-- Refuses choices by groups that the pattern does not have. -/
def Reading.checkConditions (r : Reading) : Except Fault Unit :=
  match r.conditions.reverse.find? fun (number, _) => r.groups < number with
  | some (number, place) => .error (.atOffset place (.noSuchGroup number))
  | none => .ok ()

/-- What a pattern consists of. Every group must be closed, and every look-behind have a fixed width. -/
def read (source : Text) (flags : Flags) : Except Fault Reading := do
  let c ← Cursor.ofText source
  let r ← readAll source.length (.start flags) c
  if !r.outer.isEmpty then throw (.atOffset r.level.offset .unclosedGroup)
  r.checkAlphabets
  r.checkConditions
  match r.level.node.reason? r.level.flags.unrepeated r.widthOf with
  | some reason => throw (.ofWhole reason)
  | none => return r

end MarkupLint.Pattern
