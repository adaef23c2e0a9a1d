import MarkupLint.Json.Basic
import MarkupLint.Report.Basic
import MarkupLint.Text.Wrap

/-!
The formats of reports: a line for each piece of advice, a block for each piece of advice, or JSON in the shape that
editors and language checkers share.
-/

namespace MarkupLint.Report

/-! ### Lines: location, message, and the line that advice is about -/

/-- The line that advice is about, with the range painted. -/
def markedLine (color : Bool) (a : Advice) : String :=
  let line := a.line.text
  let (left, right) := Excerpt.columns a
  if (line.length : Int) < left then String.ofList line
  else
    let (first, last) := (left.toNat, (right + 1).toNat)
    String.ofList (line.take first) ++ paint color red (String.ofList (line.slice first last)) ++
      String.ofList (line.drop last)

/-- A message without the marks around a suggestion and without blanks at its ends. -/
def bareMessage (message : Text) : Text :=
  ((message.eraseAll "<suggestion>".toList).eraseAll "</suggestion>".toList).trim

/-- The line of a piece of advice about a document. -/
def singleline (color : Bool) (resource : String) (a : Advice) : String :=
  paint color yellow s!"{resource}({a.extent.render})" ++ ": " ++
    String.ofList (bareMessage a.message) ++ " \"" ++ markedLine color a ++ "\"\n"

/-- A report with a line for each piece of advice. -/
def renderSingleline (r : Report) (color : Bool) : String :=
  String.join (r.entries.flatMap fun (resource, advice) => advice.map (singleline color resource))

/-! ### Blocks: the message, an excerpt of the line, and a marker under it -/

/-- The width of excerpts. -/
def excerptWidth : Nat := 50

/-- The width of messages. -/
def messageWidth : Nat := 78

/-- A number of spaces. -/
def spaces (n : Nat) : Text := List.replicate n ' '

/-- The block of a piece of advice. -/
def plainBlock (color : Bool) (a : Advice) : String :=
  let head := s!"* {a.extent.render}"
  let body := (Text.fill (a.message ++ " [".toList ++ a.rule.name.toList ++ [']']) messageWidth
    (spaces (head.length + 1)) (spaces 2)).trimStart
  let (left, right) := Excerpt.columns a
  let (text, first) := Excerpt.window a.line.text left right excerptWidth
  let marker := String.ofList (List.replicate (right - left + 1).toNat '^')
  paint color yellow head ++ " " ++ String.ofList body ++ "\n  " ++ String.ofList text ++ "\n" ++
    String.ofList (spaces (2 + (left - first).toNat)) ++ paint color red marker ++ "\n"

/-- The part of a report about one document. -/
def plainEntry (color : Bool) (resource : String) (advice : List Advice) : String :=
  (if resource.isEmpty then "<stdin>" else resource) ++ "\n" ++
    if advice.isEmpty then "Everything is OK!\n"
    else String.join (advice.map (plainBlock color)) ++ s!"Found {advice.length} warning(s)\n"

/-- A report for a reader. -/
def renderPlain (r : Report) (color : Bool) : String :=
  String.join (r.entries.map fun (resource, advice) => plainEntry color resource advice)

/-! ### JSON -/

/-- The version of the program. -/
def version : String := "0.1.0"

/-- The width of contexts. -/
def contextWidth : Nat := 80

/-- A piece of advice as JSON. -/
def adviceJson (a : Advice) : Json :=
  let (left, right) := Excerpt.columns a
  let excerpt := Json.ofText (Excerpt.window a.line.text left right contextWidth).1
  let offset := Json.int a.range.start
  let length := Json.int a.range.size
  .obj
    [("message", .ofText a.message), ("shortMessage", .str a.rule.description),
     ("replacements", .arr (a.replacements.map fun r => .obj [("value", .ofText r)])),
     ("offset", offset), ("length", length),
     ("context", .obj [("text", excerpt), ("offset", offset), ("length", length)]),
     ("sentence", excerpt), ("type", .obj [("typeName", .str "Other")]),
     ("rule", .obj
       [("id", .str a.rule.name), ("description", .str a.rule.description), ("issueType", .str "style"),
        ("category", .obj [("id", .str "MISC"), ("name", .str "Miscellaneous")])]),
     ("ignoreForIncompleteSentence", .bool false), ("contextForSureMatch", .int 0),
     ("file", .str a.resource)]

/-- A report as JSON, about documents in the language of the given code. -/
def toJson (r : Report) (language : String) : Json :=
  .obj
    [("software", .obj [("name", .str "annolint"), ("version", .str version), ("apiVersion", .int 1)]),
     ("warnings", .obj []),
     ("language", .obj [("name", .str language), ("code", .str language)]),
     ("matches", .arr (r.entries.flatMap fun (_, advice) => advice.map adviceJson))]

/-! ### Any format -/

/-- A report in a format, in colour where the format has colours, about documents in the language of the
given code. -/
def render (r : Report) (format : ReportFormat) (color : Bool) (language : String) : String :=
  match format with
  | .plain => r.renderPlain color
  | .singleline => r.renderSingleline color
  | .json => (r.toJson language).pretty ++ "\n"

end MarkupLint.Report
