import MarkupLint.Document

/-!
Removing LaTeX markup from a document. Cleaning has three passes: comments go first, then the preamble
and the environments that hold no running text, then commands. Every pass is made of edits, so the
provenance of what is left survives. A command for an accent leaves the accented letter.
-/

namespace MarkupLint

/-! ### Accents

A letter with an accent is one character where there is one, and the letter and a combining mark where there is
none. -/

namespace Text

/-- An accent: the sign that asks for it, its combining mark, and the letters that have a character of
their own with it. -/
structure Accent where
  /-- The sign before the letter. -/
  sign : Char
  /-- The combining mark. -/
  mark : Char
  /-- Letters. -/
  letters : String
  /-- The same letters with the accent. -/
  composed : String

/-- Grave, acute, circumflex, tilde and diaeresis. -/
def accents : List Accent :=
  [⟨'\x60', '\u0300', "AEINOUWYaeinouwy", "ÀÈÌǸÒÙẀỲàèìǹòùẁỳ"⟩,
   ⟨'\x27', '\u0301', "ACEGIKLMNOPRSUWYZacegiklmnoprsuwyz", "ÁĆÉǴÍḰĹḾŃÓṔŔŚÚẂÝŹáćéǵíḱĺḿńóṕŕśúẃýź"⟩,
   ⟨'^', '\u0302', "ACEGHIJOSUWYZaceghijosuwyz", "ÂĈÊĜĤÎĴÔŜÛŴŶẐâĉêĝĥîĵôŝûŵŷẑ"⟩,
   ⟨'~', '\u0303', "AEINOUVYaeinouvy", "ÃẼĨÑÕŨṼỸãẽĩñõũṽỹ"⟩,
   ⟨'\x22', '\u0308', "AEHIOUWXYaehiotuwxy", "ÄËḦÏÖÜẄẌŸäëḧïöẗüẅẍÿ"⟩]

/-- A letter with the accent of a sign; the letter alone when the sign asks for none. -/
def accented (sign letter : Char) : Text :=
  match accents.find? (·.sign == sign) with
  | none => [letter]
  | some a =>
    match (a.letters.toList.zip a.composed.toList).lookup letter with
    | some c => [c]
    | none => [letter, a.mark]

end Text

/-! ### Cleaners -/

/-- The settings of a LaTeX cleaner. -/
structure Latex where
  /-- Whether everything up to the start of the document body goes. -/
  ignorePreamble : Bool
  /-- Environments to remove besides the usual ones. -/
  environments : List Text
  /-- Commands to remove with their arguments. -/
  macros : List Text
deriving DecidableEq, Repr

namespace Latex

/-! ### Comments -/

/-- The start of a comment environment. -/
def beginComment : Pattern := .ofSource "\\\\begin\\s*\\\x7b\\s*comment" Pattern.noFlags

/-- The end of a comment environment. -/
def endComment : Pattern := .ofSource "\\\\end\\s*\\\x7b\\s*comment" Pattern.noFlags

/-- The comment from which on text is ignored. -/
def beginIgnored : Pattern := .ofSource "^\\s*%+.*annolint:\\ ignore\\ begin" Pattern.noFlags

/-- The comment up to which text is ignored. -/
def endIgnored : Pattern := .ofSource "^\\s*%+.*annolint:\\ ignore\\ end" Pattern.noFlags

/-- A comment at the end of a line. -/
def trailingComment : Pattern := .ofSource "(?<!\\\\)%.*$" Pattern.multiline

/-- Whether a line is nothing but a comment. -/
def isCommentLine (line : Text) : Bool := line.trimStart.head? == some '%'

/-- Judges the lines of a document whose comments are to be removed. The state tells whether the line is
inside a comment environment or an ignored part; the line that ends it is still removed. -/
def judgeComment (inside : Bool) (line : Text) : Bool × Bool :=
  let inside := inside || beginComment.occursIn line || beginIgnored.occursIn line
  let leaves := (inside && endComment.occursIn line) || endIgnored.occursIn line
  (inside || isCommentLine line, inside && !leaves)

/-- The document without comment lines. -/
def removeCommentLines (d : Document) : Document := (d.sweep judgeComment false).2

/-- The edit that replaces every match of a pattern by a template. -/
def replaceAll (p : Pattern) (template : String) : Edit :=
  .replace p (.template template.toList) true 0

/-- The document without comments. -/
def cleanComments (d : Document) : Document :=
  (removeCommentLines d).revise (replaceAll trailingComment "")

/-! ### Environments -/

/-- The environments that are always removed. -/
def usualEnvironments : List Text :=
  ["align".toList, "equation".toList, "table".toList, "tabular".toList, "verbatim".toList,
   "lstlisting".toList, "IEEEkeywords".toList, "figure".toList, "wrapfigure".toList]

/-- The start of the document body. -/
def beginDocument : Pattern := .ofSource "^[^%]*\\\\begin\\s*\\\x7b\\s*document" Pattern.noFlags

/-- A pattern that matches any of the given names. -/
def anyOf (names : List Text) : Text := Text.join ['|'] (names.map Pattern.escape)

/-- The pattern of a command, `begin` or `end`, for any of the given environments. -/
def environmentPattern (command : String) (names : List Text) : Pattern :=
  .trusted ("\\\\".toList ++ command.toList ++ "\\s*\\\x7b\\s*(?:".toList ++ anyOf names ++ [')'])
    Pattern.noFlags

/-- All environments to remove. -/
def allEnvironments (l : Latex) : List Text := usualEnvironments ++ l.environments

/-- What is known on the way through a document: whether its body has begun, and how many removed
environments are open. -/
structure Nesting where
  /-- Whether the document body has begun. -/
  inBody : Bool
  /-- The number of removed environments that are open. -/
  depth : Nat
deriving DecidableEq, Repr

/-- Judges the lines of a document whose environments are to be removed, given the patterns of what opens
and what closes one. A line counts as opening at most one environment and closing at most one. -/
def judgeEnvironment (opening closing : Pattern) (n : Nesting) (line : Text) : Bool × Nesting :=
  if n.inBody then
    let depth := if opening.occursIn line || line.has ['\\', '['] then n.depth + 1 else n.depth
    let after := if closing.occursIn line || line.has ['\\', ']'] then depth - 1 else depth
    (0 < depth, ⟨true, after⟩)
  else (true, ⟨beginDocument.occursIn line, n.depth⟩)

/-- The document without the preamble, if it is to go, and without removed environments; also whether the
document body was found. -/
def removeEnvironments (l : Latex) (d : Document) : Bool × Document :=
  let opening := environmentPattern "begin" l.allEnvironments
  let closing := environmentPattern "end" l.allEnvironments
  let (n, d) := d.sweep (judgeEnvironment opening closing) ⟨!l.ignorePreamble, 0⟩
  (n.inBody, d)

/-! ### Markup -/

/-- A command that puts an accent on a letter. -/
def accentCommand : Pattern := .ofSource "\\\\([`'^~\\\"])\\\x7b?([A-Za-z])\\\x7d?" Pattern.noFlags

/-- The accented letter of an accent command. -/
def accentLetter (m : Found) : Text :=
  match m.groupText 1, m.groupText 2 with
  | [sign], [letter] => Text.accented sign letter
  | _, _ => []

/-- What is replaced in running text, in this order: quotation marks and ligatures, environments whose
content is text, items, commands without text, citations and references, spacing, and inline
mathematics. -/
def markup : List (String × String) :=
  [("\\\\og\\\x7b\\\x7d", "«"),
   ("\\\\fg\\\x7b\\\x7d", "»"),
   ("\\\\oe\\\x7b\\\x7d", "œ"),
   ("\\\\ae\\\x7b\\\x7d", "æ"),
   ("\\\\(?:begin|end)\\\x7b(?:itemize|enumerate|inparaenum|document|thm|abstract" ++
      "|eqnarray|compactitem|query|center|minipage)\\\x7d", ""),
   ("\\\\item[ \\t]*", ""),
   ("\\\\includegraphics.*$", ""),
   ("\\\\label\\\x7b.*?\\\x7d", ""),
   ("\\\\footnote\\\x7b.*?\\\x7d", ""),
   ("\\\\(?:cite|citep|citet|citel)(?:\\[.*?\\])*\\\x7b.*?\\\x7d", "[0]"),
   ("\\\\verb\\+[^+]*?\\+", "[0]"),
   ("\\\\verb\\\"[^\\\"]*?\\\"", "[0]"),
   ("\\\\(?:ref|url|eqref|autoref|cref)\\\x7b.*?\\\x7d", "X"),
   ("\\\\maketitle|\\\\newpage", ""),
   ("\\\\(?:input|include|documentclass|usepackage|noindent|vskip|vspace|hspace" ++
      "|rule|urlstyle|fancyfoot|fancyhead|pagestyle|thispagestyle|newcommand" ++
      "|renewcommand|bibliographystyle|bibliography|scalebox" ++
      "|printbibliography)\\b.*$", ""),
   ("\\\\-", ""),
   ("~", " "),
   ("([^\\\\])\\$.*?[^\\\\]\\$", "\\1X"),
   ("^\\$.*?[^\\\\]\\$", "X")]

/-- A command together with the brace that opens its argument. -/
def commandOpener : Pattern := .ofSource "\\\\\\w+\\\x7b" Pattern.noFlags

/-- A brace. -/
def brace : Pattern := .ofSource "\\\x7b|\\\x7d" Pattern.noFlags

/-- The pattern of the commands to remove, with their optional arguments and one argument. -/
def macroPattern (names : List Text) : Pattern :=
  .trusted ("\\\\(?:".toList ++ anyOf names ++ ")(?:\\[.*?\\])*(?:\\\x7b.*?\\\x7d)?".toList)
    Pattern.noFlags

/-- The edits that remove markup, in order. -/
def markupEdits (l : Latex) : List Edit :=
  [.replace accentCommand (.compute fun m => .ok (accentLetter m)) true 0] ++
    markup.map (fun (source, template) => replaceAll (.ofSource source Pattern.multiline) template) ++
    (if l.macros.isEmpty then [] else [replaceAll (macroPattern l.macros) ""]) ++
    [replaceAll commandOpener "", replaceAll brace ""]

/-- The document without blank lines. -/
def removeBlankLines (d : Document) : Document :=
  (d.sweep (fun (_ : Unit) line => (line.allBlank, ())) ()).2

/-- The document without commands and blank lines. -/
def removeMarkup (l : Latex) (d : Document) : Document :=
  removeBlankLines (l.markupEdits.foldl Document.revise d)

/-! ### The whole cleaning -/

/-- The document without comments and markup. -/
def clean (l : Latex) (d : Document) : Document :=
  l.removeMarkup (l.removeEnvironments (cleanComments d)).2

/-- A command that includes another file. -/
def inclusion : Pattern := .ofSource "\\\\(?:input|include)\\s*\\\x7b(.*?)\\\x7d" Pattern.noFlags

/-- The name of an included file, with its extension. -/
def includedName? (argument : Text) : Option Text :=
  let name := argument.trim
  let extension := ".tex".toList
  if name.isEmpty then none
  else if extension.isSuffixOf name then some name
  else some (name ++ extension)

/-- The files that a document includes outside of its comments. -/
def includedFiles (d : Document) : List Text :=
  (inclusion.findAll (cleanComments d).current).filterMap fun m => includedName? (m.groupText 1)

end Latex

end MarkupLint
