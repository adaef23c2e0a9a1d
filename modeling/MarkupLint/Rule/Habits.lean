import MarkupLint.Advice

/-!
Habits of markup: manual line breaks in running text, and citations in two styles.
-/

namespace MarkupLint.Habits

/-! ### Line breaks -/

/-- What is reported about the rule on line breaks. -/
def breakInfo : RuleInfo := ⟨"sh:nobreak", "Don't use manual line breaks in text"⟩

/-- The environments in which lines or rows are ended by a break. -/
def breakingEnvironments : List String :=
  ["equation", "align", "gather", "multline", "eqnarray", "table", "tabular", "tabularx", "array",
   "verbatim", "lstlisting", "IEEEkeywords", "figure", "matrix", "bmatrix", "Bmatrix", "pmatrix",
   "vmatrix", "Vmatrix", "smallmatrix", "cases", "verse", "tikzpicture"]

/-- The pattern of a command, `begin` or `end`, for an environment of lines or rows, or of the bracket that
opens or closes displayed mathematics. -/
def breakingPattern (command bracket : String) : Pattern :=
  .ofSource ("\\\\" ++ command ++ "\\s*\\\x7b\\s*(?:" ++ String.intercalate "|" breakingEnvironments ++
    ")\\*?\\s*\\\x7d|(?<!\\\\)\\\\\\" ++ bracket) Pattern.noFlags

/-- The start of an environment of lines or rows. -/
def beginBreaking : Pattern := breakingPattern "begin" "["

/-- The end of an environment of lines or rows. -/
def endBreaking : Pattern := breakingPattern "end" "]"

/-- The ranges of the first breaks on the lines outside of such environments, of which `depth` are open. -/
def breaks : Nat → List Line → List Range
  | _, [] => []
  | depth, line :: lines =>
    let depth := depth + (beginBreaking.findAll line.text).length
    let here : List Range :=
      if depth = 0 then
        (Text.find? ['\\', '\\'] line.text).toList.map fun i => .ofSize (line.offset + i) 2
      else []
    here ++ breaks (depth - (endBreaking.findAll line.text).length) lines

/-- The advice about line breaks. -/
def breakAdvice (v : Provenance) : List Advice :=
  (breaks 0 v.document.lines).map fun r =>
    v.advise breakInfo r
      ("You should not break lines manually in a paragraph. " ++
        "Either start a new paragraph or stay in the current one.").toList []

/-! ### Citations -/

/-- What is reported about the rule on citations. -/
def citationInfo : RuleInfo := ⟨"sh:c:itemix", "No mix of citation styles"⟩

/-- A citation in the textual or the parenthetical style. -/
def styledCitation : Pattern := .ofSource "\\\\cite[pt]\\b" Pattern.noFlags

/-- A citation without a style. -/
def plainCitation : Pattern := .ofSource "\\\\cite(?=[\\s\\[\x7b])" Pattern.noFlags

/-- The advice about the first citation with a style in a document that also has one without. -/
def citationAdvice (v : Provenance) : List Advice :=
  match v.document.find styledCitation 0, v.document.find plainCitation 0 with
  | some m, some _ =>
    [v.advise citationInfo (.ofSize m.start m.size)
      "Do not mix \\cite with \\citep or \\citet in the same document.".toList []]
  | _, _ => []

end MarkupLint.Habits
