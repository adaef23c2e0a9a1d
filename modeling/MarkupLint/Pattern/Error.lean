import MarkupLint.Text.Number
import MarkupLint.Text.Quoted

/-!
What is wrong with a pattern, and where.
-/

namespace MarkupLint.Pattern

/-- What is wrong with the options in a parenthesis. -/
inductive FlagProblem where
  | unknown
  | missing
  | unclosed
  | unclosedOff
  | locale
  | mixedAlphabets
  | alphabetOff
  | globalOn
  | globalOff
  | onAndOff
deriving DecidableEq, Repr

/-- The wording of a problem with options. -/
def FlagProblem.message : FlagProblem → String
  | unknown => "unknown flag"
  | missing => "missing flag"
  | unclosed => "missing -, : or )"
  | unclosedOff => "missing :"
  | locale => "bad inline flags: cannot use 'L' flag with a str pattern"
  | mixedAlphabets => "bad inline flags: flags 'a', 'u' and 'L' are incompatible"
  | alphabetOff => "bad inline flags: cannot turn off flags 'a', 'u' and 'L'"
  | globalOn => "bad inline flags: cannot turn on global flag"
  | globalOff => "bad inline flags: cannot turn off global flag"
  | onAndOff => "bad inline flags: flag turned on and off"

/-- What is wrong with a pattern or with a replacement template. -/
inductive Reason where
  | unclosedGroup
  | unopenedGroup
  | unclosedSet
  | unclosedComment
  | nothingToRepeat
  | repeatedRepeat
  | reversedRepeat
  | groupRedefined (name : Text) (number earlier : Nat)
  | badGroupName (name : Text)
  | badGroupNumber
  | missingGroupName
  | missingCharName
  | unclosedName (terminator : Char)
  | missingOpening (opening : Char)
  | unknownGroup (name : Text)
  | unknownChar (name : Text)
  | danglingBackslash
  | badEscape (escape : Text)
  | shortEscape (escape : Text)
  | largeOctal (escape : Text)
  | noSuchGroup (number : Nat)
  | openGroup
  | groupInSameLookBehind
  | tooManyBranches
  | badRange (first last : Text)
  | unexpectedEnd
  | unknownExtension (extension : Text)
  | lateFlags
  | flags (problem : FlagProblem)
  | raggedLookBehind
  | longLookBehind
  | refusedRepeat (operator : String)
  | largeRepeat
  | longNumber (digits : Nat)
  | mixedAlphabets
deriving DecidableEq, Repr

namespace Reason

/-- The wording of a reason. -/
def message : Reason → String
  | unclosedGroup => "missing ), unterminated subpattern"
  | unopenedGroup => "unbalanced parenthesis"
  | unclosedSet => "unterminated character set"
  | unclosedComment => "missing ), unterminated comment"
  | nothingToRepeat => "nothing to repeat"
  | repeatedRepeat => "multiple repeat"
  | reversedRepeat => "min repeat greater than max repeat"
  | groupRedefined name number earlier =>
    s!"redefinition of group name {name.quoted} as group {number}; was group {earlier}"
  | badGroupName name => s!"bad character in group name {name.quoted}"
  | badGroupNumber => "bad group number"
  | missingGroupName => "missing group name"
  | missingCharName => "missing character name"
  | unclosedName terminator => s!"missing {terminator}, unterminated name"
  | missingOpening opening => s!"missing {opening}"
  | unknownGroup name => s!"unknown group name {name.quoted}"
  | unknownChar name => s!"undefined character name {name.quoted}"
  | danglingBackslash => "bad escape (end of pattern)"
  | badEscape escape => s!"bad escape {String.ofList escape}"
  | shortEscape escape => s!"incomplete escape {String.ofList escape}"
  | largeOctal escape => s!"octal escape value {String.ofList escape} outside of range 0-0o377"
  | noSuchGroup number => s!"invalid group reference {number}"
  | openGroup => "cannot refer to an open group"
  | groupInSameLookBehind => "cannot refer to group defined in the same lookbehind subpattern"
  | tooManyBranches => "conditional backref with more than two branches"
  | badRange first last =>
    s!"bad character range {String.ofList first}-{String.ofList last}"
  | unexpectedEnd => "unexpected end of pattern"
  | unknownExtension extension => s!"unknown extension {String.ofList extension}"
  | lateFlags => "global flags not at the start of the expression"
  | flags problem => problem.message
  | raggedLookBehind => "look-behind requires fixed-width pattern"
  | longLookBehind => "looks too much behind"
  | refusedRepeat operator => s!"internal: unsupported template operator {operator}"
  | largeRepeat => "the repetition number is too large"
  | longNumber digits => Text.digitsMessage digits
  | mixedAlphabets => "ASCII and UNICODE flags are incompatible"

/-- Whether the reason lies in the writing of the pattern. Numbers that are too large or too long and
options that exclude each other are found out apart from it. -/
def isMalformed : Reason → Bool
  | largeRepeat | longNumber _ | mixedAlphabets => false
  | _ => true

end Reason

/-- A reason and the offset that it is about, if it is about one. -/
structure Fault where
  /-- What is wrong. -/
  reason : Reason
  /-- The offset in the pattern or in the template. -/
  offset : Option Nat
deriving DecidableEq, Repr

namespace Fault

/-- A fault at an offset. -/
def atOffset (offset : Nat) (reason : Reason) : Fault := ⟨reason, some offset⟩

/-- A fault of the whole. -/
def ofWhole (reason : Reason) : Fault := ⟨reason, none⟩

/-- The number of characters after the last line feed of a text, plus one: the column, from one, of the
character that follows the text. -/
def columnAfter (before : Text) : Nat :=
  (before.reverse.takeWhile (· ≠ '\n')).length + 1

/-- The wording of a fault of the text `source`. Where the text has several lines, the line and the
column are named as well, counted from one. -/
def message (f : Fault) (source : Text) : String :=
  match f.offset with
  | none => f.reason.message
  | some offset =>
    let place := s!"{f.reason.message} at position {offset}"
    if source.contains '\n' then
      let before := source.take offset
      let line := before.count '\n' + 1
      s!"{place} (line {line}, column {columnAfter before})"
    else place

end Fault

end MarkupLint.Pattern
