import MarkupLint.Path
import MarkupLint.Text.Case

/-!
The markup of a document, as it is named in settings and guessed from names of files.
-/

namespace MarkupLint

/-- A markup language. -/
inductive Language where
  | latex
  | markdown
  | plain
  /-- Not known, and taken for LaTeX. -/
  | unspecified
deriving DecidableEq, Repr

namespace Language

/-- The code of a language. -/
def code : Language → String
  | latex => "tex"
  | markdown => "md"
  | plain => "txt"
  | unspecified => "unspecified"

/-- The languages that settings can name. -/
def choices : List Language := [latex, markdown, plain]

/-- The language of a code. -/
def ofCode? (code : String) : Option Language :=
  [latex, markdown, plain, unspecified].find? (·.code == code)

/-- The language that settings name by a code. -/
def choice? (code : String) : Option Language := choices.find? (·.code == code)

/-- The language of an extension, in lower case. -/
def ofExtension (extension : String) : Language :=
  match extension with
  | ".tex" => latex
  | ".md" | ".markdown" => markdown
  | ".txt" => plain
  | _ => unspecified

/-- The language that the name of a file tells. -/
def ofFileName (name : Text) : Language :=
  ofExtension (String.ofList ((Path.ofText name).extension.map Text.lower))

end Language

end MarkupLint
