import MarkupLint.Advice
import MarkupLint.Log
import MarkupLint.Text.File
import MarkupLint.Text.Number

/-!
Rules that report the matches of a pattern. The message may refer to the groups of the match by a dollar
sign and a number. Such rules are written as lines of fields: name, pattern, message and, where there
is one, an exception.
-/

namespace MarkupLint

/-- A rule that reports every match of a pattern but those that the exception matches as a whole. -/
structure RegexRule where
  /-- The name of the rule. -/
  name : String
  /-- What is reported. -/
  pattern : Pattern
  /-- What is said about it. -/
  message : Text
  /-- What is not reported. -/
  exception : Option Pattern
  /-- What might take its place. -/
  suggestion : Option Text
deriving DecidableEq, Repr

/-! ### Messages -/

/-- A message that refers to a group by a number of too many digits. -/
structure MessageError where
  /-- The number of digits. -/
  digits : Nat
deriving DecidableEq, Repr

/-- The wording of a message error. -/
def MessageError.message (e : MessageError) : String := Text.digitsMessage e.digits

/-- The text of a group, empty when there is no such group or it took no part. -/
def placeholderText (groups : List (Option Text)) (number : Nat) : Text :=
  (groups[number]?).join.getD []

/-- What a dollar sign and the digits after it, last first, stand for: a group, or itself when there are no
digits. -/
def placeholder (groups : List (Option Text)) (digits : Text) : Except MessageError Text :=
  if digits.isEmpty then .ok ['$']
  else if Text.maxDigits < digits.length then .error ⟨digits.length⟩
  else .ok (placeholderText groups (Text.number digits.reverse))

/-- Fills in a message. After a dollar sign the digits read so far are kept, last first. -/
def fillFrom (groups : List (Option Text)) : Option Text → Text → Except MessageError Text
  | none, [] => .ok []
  | some digits, [] => placeholder groups digits
  | none, c :: rest =>
    if c = '$' then fillFrom groups (some []) rest
    else do return c :: (← fillFrom groups none rest)
  | some digits, c :: rest =>
    if Text.isDigit c then fillFrom groups (some (c :: digits)) rest
    else do
      let filled ← placeholder groups digits
      if c = '$' then return filled ++ (← fillFrom groups (some []) rest)
      return filled ++ c :: (← fillFrom groups none rest)

/-- A message with the groups of a match filled in; group zero is the whole match. -/
def fillMessage (template : Text) (groups : List (Option Text)) : Except MessageError Text :=
  fillFrom groups none template

/-- The texts of the groups of a match, from group zero on. -/
def Found.groupTexts (m : Found) : List (Option Text) :=
  (some m.whole :: m.groups).map (·.map (·.text))

namespace RegexRule

/-! ### Evaluation -/

/-- The greatest number of matches that one rule looks at. -/
def maxMatches : Nat := 100

/-- What is reported about the rule. -/
def info (r : RegexRule) : RuleInfo := ⟨r.name, "Regex check on the text"⟩

/-- Whether a match is reported: it is not empty and the exception does not match it as a whole. -/
def reports (r : RegexRule) (m : Found) : Bool :=
  !m.whole.text.isEmpty && !r.exception.any (·.matchesWhole m.whole.text)

/-- The advice about a match. -/
def adviceFor (r : RegexRule) (v : Provenance) (m : Found) : Except MessageError Advice := do
  let suggestions ← r.suggestion.toList.mapM (fillMessage · m.groupTexts)
  let message ← fillMessage r.message m.groupTexts
  return v.advise r.info (.ofSize m.start m.size) message suggestions

/-- The matches that the rule looks at from the offset `start` on, `limit` at most. -/
def visit (r : RegexRule) (d : Document) : Nat → Nat → List Found
  | 0, _ => []
  | limit + 1, start =>
    match d.find r.pattern start with
    | none => []
    | some m => m :: visit r d limit m.resume

/-- The advice of the rule. -/
def evaluate (r : RegexRule) (v : Provenance) : Except MessageError (List Advice) :=
  ((r.visit v.document maxMatches 0).filter r.reports).mapM (r.adviceFor v)

/-- Whether the rule stopped at the greatest number of matches. -/
def stopsEarly (r : RegexRule) (d : Document) : Bool :=
  (r.visit d maxMatches 0).length == maxMatches

/-! ### Rules as lines -/

/-- A rule with the given fields; an empty exception is none. -/
def ofFields (name pattern message : Text) (exception suggestion : Option Text) :
    Except PatternError RegexRule := do
  let p ← Pattern.compile pattern Pattern.noFlags
  let e ← match exception with
    | none | some [] => pure none
    | some source => some <$> Pattern.compile source Pattern.noFlags
  return ⟨String.ofList name, p, message, e, suggestion⟩

/-- The rule that a line writes, if it has fields enough. -/
def ofLine? (line : Text) : Option (Except PatternError RegexRule) :=
  match line.fields with
  | name :: pattern :: message :: more => some (ofFields name pattern message more.head? none)
  | _ => none

/-- The rules that lines write. Blank lines and comments are passed over, and so are lines with too few
fields. -/
def ofLines (lines : List Text) : Except PatternError (List RegexRule) :=
  ((lines.filter (!·.holdsNoFields)).filterMap ofLine?).mapM id

/-- The warnings about lines with too few fields, up to the first pattern that cannot be read. -/
def lineWarnings : List Text → List LogEntry
  | [] => []
  | line :: lines =>
    if line.holdsNoFields then lineWarnings lines
    else
      match ofLine? line with
      | none => ⟨.warning, s!"Ignoring malformed rule line: {line.quoted}"⟩ :: lineWarnings lines
      | some (.error _) => []
      | some (.ok _) => lineWarnings lines

/-! ### The rules of this library -/

/-- A rule of this library. -/
def builtIn (name pattern message : String) (suggestion : Option String) : RegexRule :=
  ⟨name, .ofSource pattern Pattern.noFlags, message.toList, none, suggestion.map String.toList⟩

/-- The rules for LaTeX sources without comments. -/
def sourceRules : List RegexRule :=
  [builtIn "sh:tilde-ref" "[^~\\s(]\\s*\\\\(?:ref|eqref|autoref|cref)\\\x7b"
      "Use a non-breaking space (~) before a reference" none,
   builtIn "sh:tilde-cite" "[^~\\s(]\\s*\\\\cite[pt]?\\\x7b"
      "Use a non-breaking space (~) before a citation" none,
   builtIn "sh:dots" "\\.\\.\\." "Use \\dots instead of three periods" (some "\\dots"),
   builtIn "sh:quotes" "\\\"[^\\\"\\n]*\\\""
      "Use \x60\x60...'' instead of straight double quotes" none,
   builtIn "sh:hardref" "\\b([Ff]igure|[Tt]able|[Ss]ection)\\s+\\d+"
      "Refer to this $1 with \\ref instead of a hard-coded number" none]

/-- The rules for cleaned text. -/
def cleanedRules : List RegexRule :=
  [builtIn "txt:repeat" "\\b(\\w+)\\s+\\1\\b" "Repeated word: $1" (some "$1"),
   builtIn "txt:punct-space" "[ \\t]+[,;:!?](?=\\s|$)"
      "Remove the space before this punctuation mark" none,
   builtIn "txt:spaces" "\\S \x7b2,\x7d(?=\\S)" "Use a single space between words" none,
   builtIn "txt:abbrev-comma" "\\b(e\\.g\\.|i\\.e\\.)(?!,)" "Add a comma after \"$1\"" (some "$1,")]

end RegexRule

end MarkupLint
