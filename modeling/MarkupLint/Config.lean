import MarkupLint.Json.Parser
import MarkupLint.Linter
import MarkupLint.Report.Basic

/-!
Settings, as they are read from a JSON object, and the linter that they ask for. Keys are looked at in the order of
the object.
-/

namespace MarkupLint

/-- The settings of a run. -/
structure Config where
  /-- The language, when it is not to be guessed. -/
  language : Option Language := none
  /-- The rules to leave out. -/
  ignore : List String := []
  /-- Whether the text before the document body is looked at. -/
  readAll : Bool := false
  /-- LaTeX environments to remove. -/
  environments : List String := []
  /-- LaTeX commands to remove. -/
  macros : List String := []
  /-- The file of a table of replacements. -/
  replaceFile : Option String := none
  /-- The format of the report. -/
  output : ReportFormat := .plain
  /-- Whether the report is in colour. -/
  color : Bool := true
  /-- Whether a run ends well whatever it finds. -/
  ci : Bool := false
deriving DecidableEq, Repr

/-- Why settings cannot be had. -/
inductive ConfigError where
  /-- A value is of the wrong type. -/
  | wrongType (key : String) (value : Json)
  /-- A list has an item that is not a string. -/
  | notStrings (key : String)
  /-- There is no such language. -/
  | badLanguage (name : String)
  /-- There is no such format. -/
  | badOutput (name : String)
  /-- The file is not JSON. -/
  | notJson (file : String)
  /-- The file cannot be read. -/
  | unreadable (file why : String)
  /-- The file holds something other than an object. -/
  | notObject (file : String)

namespace ConfigError

/-- A list of names in parentheses. -/
def listed (names : List String) : String :=
  "(" ++ String.intercalate ", " (names.map fun name => Text.quoted name.toList) ++ ")"

/-- The wording of a settings error. -/
def message : ConfigError → String
  | wrongType key value => s!"Config key {Text.quoted key.toList} has the wrong type: {value.describe}"
  | notStrings key => s!"Config key {Text.quoted key.toList} must be a list of strings"
  | badLanguage name =>
    let codes := Language.choices.map (·.code)
    s!"language must be one of {listed codes}, got {Text.quoted name.toList}"
  | badOutput name =>
    let names := ReportFormat.choices.map (·.name)
    s!"output must be one of {listed names}, got {Text.quoted name.toList}"
  | notJson file => s!"Cannot read config file {file}: <json error>"
  | unreadable file why => s!"Cannot read config file {file}: {why}"
  | notObject file => s!"Config file must hold a JSON object: {file}"

end ConfigError

/-- What a value of the settings must be. -/
inductive FieldType where
  | string
  | stringOrNull
  | strings
  | bool
deriving DecidableEq, Repr

namespace Config

/-- The keys of settings, with what their values must be. -/
def fieldTypes : List (String × FieldType) :=
  [("language", .stringOrNull), ("ignore", .strings), ("read_all", .bool),
   ("remove_environments", .strings), ("remove_macros", .strings), ("replace_file", .stringOrNull),
   ("output", .string), ("color", .bool), ("ci", .bool)]

/-- The strings of a list, if it has nothing else. -/
def strings? (items : List Json) : Option (List String) :=
  items.mapM fun
    | .str s => some s
    | _ => none

/-- Checks the value of a key. A key that is not known is passed over. -/
def checkField (field : String × Json) : Except ConfigError Unit :=
  match fieldTypes.lookup field.1, field.2 with
  | none, _ => .ok ()
  | some .string, .str _ => .ok ()
  | some .stringOrNull, .str _ | some .stringOrNull, .null => .ok ()
  | some .bool, .bool _ => .ok ()
  | some .strings, .arr items => if (strings? items).isSome then .ok () else .error (.notStrings field.1)
  | some _, value => .error (.wrongType field.1 value)

/-- The string under a key, if there is one. -/
def stringAt (fields : List (String × Json)) (key : String) : Option String :=
  match fields.lookup key with
  | some (.str s) => some s
  | _ => none

/-- The strings under a key, none when the key is missing. -/
def stringsAt (fields : List (String × Json)) (key : String) : List String :=
  match fields.lookup key with
  | some (.arr items) => (strings? items).getD []
  | _ => []

/-- The truth value under a key, or what it is when the key is missing. -/
def boolAt (fields : List (String × Json)) (key : String) (otherwise : Bool) : Bool :=
  match fields.lookup key with
  | some (.bool b) => b
  | _ => otherwise

/-- The settings that an object writes. First the types of the values are checked, then the names of the
language and the format. -/
def ofFields (fields : List (String × Json)) : Except ConfigError Config := do
  fields.forM checkField
  let language ← match stringAt fields "language" with
    | none => pure none
    | some name =>
      match Language.choice? name with
      | some language => pure (some language)
      | none => throw (.badLanguage name)
  let outputName := (stringAt fields "output").getD "plain"
  let output ← match ReportFormat.ofName? outputName with
    | some output => pure output
    | none => throw (.badOutput outputName)
  return {
    language, output
    ignore := stringsAt fields "ignore"
    readAll := boolAt fields "read_all" false
    environments := stringsAt fields "remove_environments"
    macros := stringsAt fields "remove_macros"
    replaceFile := stringAt fields "replace_file"
    color := boolAt fields "color" true
    ci := boolAt fields "ci" false }

/-- The warnings about keys that are not known, up to the first value that is refused. -/
def fieldWarnings : List (String × Json) → List LogEntry
  | [] => []
  | field :: fields =>
    match checkField field with
    | .error _ => []
    | .ok _ =>
      if (fieldTypes.lookup field.1).isSome then fieldWarnings fields
      else ⟨.warning, s!"Ignoring unknown config key: {field.1}"⟩ :: fieldWarnings fields

/-- The object that a file of settings holds. -/
def objectOf (file : String) (bytes : List UInt8) : Except ConfigError (List (String × Json)) :=
  match (Text.ofUtf8? bytes).bind Json.parse with
  | none => .error (.notJson file)
  | some (.obj fields) => .ok fields
  | some _ => .error (.notObject file)

/-- The language of a file: the one of the settings, or else the one that its name tells, and LaTeX when
the name tells none. -/
def languageOf (c : Config) (file : Text) : Language :=
  match c.language with
  | some language => language
  | none =>
    match Language.ofFileName file with
    | .unspecified => .latex
    | language => language

/-- The note on a language that cannot be guessed. -/
def languageNotes (c : Config) (file : Text) : List LogEntry :=
  if c.language.isNone ∧ Language.ofFileName file = .unspecified then
    [⟨.debug, s!"Cannot guess the markup of {String.ofList file}; assuming LaTeX"⟩]
  else []

/-! ### The linter that settings ask for -/

/-- The cleaner of a language under the settings. -/
def cleaner (c : Config) : Language → Cleaner
  | .markdown => .markdown
  | .plain => .table .empty
  | .latex | .unspecified =>
    .latex ⟨!c.readAll, c.environments.map String.toList, c.macros.map String.toList⟩

/-- The file of replacements to read, if there is one. -/
def tableFile? (c : Config) : Option String :=
  c.replaceFile.filter (!·.isEmpty)

/-- The linter of a language under the settings, before any rule is left out; `table` is the table of
replacements, if there is one. -/
def fullLinter (c : Config) (language : Language) (table : Option Table) : Linter :=
  .ofLanguage language <|
    match table with
    | none => c.cleaner language
    | some t => .composite [c.cleaner language, .table t]

/-- The linter of a language under the settings. -/
def linter (c : Config) (language : Language) (table : Option Table) : Linter :=
  (c.fullLinter language table).ignore c.ignore

/-- The warnings about rules to leave out that are not there. -/
def linterWarnings (c : Config) (language : Language) (table : Option Table) : List LogEntry :=
  (c.fullLinter language table).ignoreWarnings c.ignore

/-- The notes on reading a table of replacements. -/
def tableNotes (file : Text) (lines : List Text) : List LogEntry :=
  (Table.malformedLines lines).map
      (fun line => ⟨.debug, s!"Ignoring malformed replacement line: {line.quoted}"⟩) ++
    [⟨.info, s!"Loaded {(Table.ofLines lines).rows.length} replacements from {String.ofList file}"⟩]

end Config

end MarkupLint
