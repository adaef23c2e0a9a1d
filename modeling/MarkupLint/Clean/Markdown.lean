import MarkupLint.Document

/-!
Removing Markdown markup from a document. Blank lines stay, as breaks between paragraphs.
-/

namespace MarkupLint.Markdown

/-- The line from which on text is ignored. -/
def beginIgnored : Text := "<!-- annolint: ignore begin -->".toList

/-- The line up to which text is ignored. -/
def endIgnored : Text := "<!-- annolint: ignore end -->".toList

/-- A comment on one line. -/
def comment : Pattern := .ofSource "<!--.*?-->" Pattern.noFlags

/-- Judges the lines of a document whose ignored parts are to be removed. The state tells whether the line
is in such a part; the lines that begin and end it are removed as well. -/
def judgeIgnored (ignoring : Bool) (line : Text) : Bool × Bool :=
  let ignoring := ignoring || line.trim == beginIgnored
  (ignoring, ignoring && line.trim != endIgnored)

/-- The document without ignored parts. -/
def removeIgnored (d : Document) : Document := (d.sweep judgeIgnored false).2

/-- The document without ignored parts and comments. -/
def cleanComments (d : Document) : Document :=
  (removeIgnored d).revise (.replace comment (.template []) true 0)

/-- Whether a line begins or ends a block of code. -/
def isFence (line : Text) : Bool := "\x60\x60\x60".toList.isPrefixOf line.trimStart

/-- Judges the lines of a document whose blocks of code are to be removed. The state tells whether the line
is inside a block. -/
def judgeFence (inside : Bool) (line : Text) : Bool × Bool :=
  (inside || isFence line, inside != isFence line)

/-- The document without blocks of code. -/
def removeCode (d : Document) : Document := (d.sweep judgeFence false).2

/-- What is replaced in running text, in this order: emphasis, inline code, images, links, items of lists,
headings, and underlines of headings. -/
def markup : List (String × String) :=
  [("\\*", ""),
   ("\x60.*?\x60", "X"),
   ("!\\[(.*?)\\]\\(.*?\\)", "\\1"),
   ("\\[(.*?)\\]\\(.*?\\)", "\\1"),
   ("^[ \\t]*?- ", "• "),
   ("^[ \\t]*#+[ \\t]*", ""),
   ("^[ \\t]*=+[ \\t]*$", "")]

/-- The edits that remove markup, in order. -/
def markupEdits : List Edit :=
  markup.map fun (source, template) =>
    .replace (.ofSource source Pattern.multiline) (.template template.toList) true 0

/-- The document without comments and markup. -/
def clean (d : Document) : Document :=
  markupEdits.foldl Document.revise (removeCode (cleanComments d))

end MarkupLint.Markdown
