import MarkupLint.Config

/-!
The options of the command line. Options and files may be mixed, but all files stand together. An option
can be shortened as long as it stays the only one, its value can follow an equals sign, and options of
one letter can be joined. Two hyphens end the options.
-/

namespace MarkupLint

/-- What the command line asks for. -/
structure Options where
  files : List String := []
  language : Option Language := none
  ignore : List String := []
  readAll : Bool := false
  environments : List String := []
  macros : List String := []
  replaceFile : Option String := none
  clean : Bool := false
  map : Option String := none
  output : Option ReportFormat := none
  noColor : Bool := false
  noConfig : Bool := false
  ci : Bool := false
  quiet : Bool := false
  verbose : Bool := false
deriving DecidableEq, Repr

namespace CommandLine

/-- An option. -/
inductive Flag where
  | help
  | type
  | ignore
  | readAll
  | remove
  | removeMacros
  | replace
  | clean
  | map
  | output
  | noColor
  | noConfig
  | ci
  | quiet
  | verbose
  | version
deriving DecidableEq, Repr

/-- The spellings of options, in the order in which they are offered. -/
def spellings : List (String × Flag) :=
  [("-h", .help), ("--help", .help), ("--type", .type), ("--ignore", .ignore), ("--read-all", .readAll),
   ("--remove", .remove), ("--remove-macros", .removeMacros), ("--replace", .replace),
   ("--clean", .clean), ("--map", .map), ("--output", .output), ("--no-color", .noColor),
   ("--no-config", .noConfig), ("--ci", .ci), ("--quiet", .quiet), ("-q", .quiet),
   ("--verbose", .verbose), ("-v", .verbose), ("--version", .version)]

/-- All spellings of an option. -/
def Flag.name (f : Flag) : String :=
  String.intercalate "/" ((spellings.filter (·.2 == f)).map (·.1))

/-- Whether an option has a value. -/
def Flag.hasValue : Flag → Bool
  | type | ignore | remove | removeMacros | replace | map | output => true
  | help | readAll | clean | noColor | noConfig | ci | quiet | verbose | version => false

/-- Why the command line makes no run. -/
inductive Refusal where
  /-- The help was asked for. -/
  | help
  /-- The version was asked for. -/
  | version
  /-- The command line is malformed. -/
  | usage (why : String)
deriving DecidableEq, Repr

/-- A malformed use of an option. -/
def misuse (f : Flag) (why : String) : Refusal := .usage s!"argument {f.name}: {why}"

/-! ### Kinds of arguments -/

/-- What an argument is. -/
inductive Argument where
  /-- A file, or the value of an option. -/
  | word (text : String)
  /-- An option, as it is spelled, with the value that follows it at once. -/
  | flag (spelling : String) (flag : Flag) (value : Option String)
  /-- Looks like an option and is none. -/
  | unknown (text : String)
  /-- The end of the options. -/
  | endOfOptions
deriving DecidableEq, Repr

/-- The text before the first equals sign and the one after it, if there is one. -/
def splitEquals (text : Text) : Text × Option Text :=
  match text.span (· ≠ '=') with
  | (before, []) => (before, none)
  | (before, _ :: after) => (before, some after)

/-- The options that an argument may stand for: those that a long one begins, or the one of one letter that
begins a short one. -/
def candidates (text : Text) : List (String × Flag × Option String) :=
  match text with
  | '-' :: '-' :: _ =>
    let (start, value) := splitEquals text
    (spellings.filter fun s => start.isPrefixOf s.1.toList).map fun (s, f) =>
      (s, f, value.map String.ofList)
  | _ =>
    (spellings.filter fun s => s.1.toList == text.take 2).map fun (s, f) =>
      (s, f, some (String.ofList (text.drop 2)))

/-- Whether a text is a negative number, possibly with a line feed at its end. -/
def isNegativeNumber (text : Text) : Bool :=
  match if text.getLast? = some '\n' then text.dropLast else text with
  | '-' :: rest =>
    match rest.span Text.isDigit with
    | (whole, []) => !whole.isEmpty
    | (_, '.' :: places) => !places.isEmpty && places.all Text.isDigit
    | _ => false
  | _ => false

/-- What an argument before the end of the options is. -/
def classify (arg : String) : Except Refusal Argument :=
  let text := arg.toList
  if text.head? ≠ some '-' then .ok (.word arg)
  else
    match spellings.lookup arg with
    | some f => .ok (.flag arg f none)
    | none =>
      if text.length = 1 then .ok (.word arg)
      else
        let (start, value) := splitEquals text
        match value, spellings.lookup (String.ofList start) with
        | some value, some f => .ok (.flag (String.ofList start) f (some (String.ofList value)))
        | _, _ =>
          match candidates text with
          | [(s, f, value)] => .ok (.flag s f value)
          | [] => .ok (if isNegativeNumber text || text.contains ' ' then .word arg else .unknown arg)
          | several =>
            let names := String.intercalate ", " (several.map (·.1))
            .error (.usage s!"ambiguous option: {arg} could match {names}")

/-- What the arguments are. After the end of the options all are words. -/
def classifyAll : List String → Except Refusal (List Argument)
  | [] => .ok []
  | arg :: args =>
    if arg = "--" then .ok (.endOfOptions :: args.map .word)
    else do return (← classify arg) :: (← classifyAll args)

/-! ### Taking options -/

/-- Checks that a value is one of the choices. -/
def chosen {α : Type} (f : Flag) (choices : List String) (value : String) (found : Option α) :
    Except Refusal α :=
  match found with
  | some a => .ok a
  | none =>
    let names := String.intercalate ", " (choices.map fun c => Text.quoted c.toList)
    .error (misuse f s!"invalid choice: {Text.quoted value.toList} (choose from {names})")

/-- Takes an option with its value, which is empty for an option without one. -/
def take (o : Options) (f : Flag) (value : String) : Except Refusal Options :=
  match f with
  | .help => .error .help
  | .version => .error .version
  | .type => do
    let language ← chosen f (Language.choices.map (·.code)) value (Language.choice? value)
    return { o with language }
  | .output => do
    let output ← chosen f (ReportFormat.choices.map (·.name)) value (ReportFormat.ofName? value)
    return { o with output }
  | .ignore => .ok { o with ignore := o.ignore ++ [value] }
  | .remove => .ok { o with environments := o.environments ++ [value] }
  | .removeMacros => .ok { o with macros := o.macros ++ [value] }
  | .replace => .ok { o with replaceFile := value }
  | .map => .ok { o with map := value }
  | .readAll => .ok { o with readAll := true }
  | .clean => .ok { o with clean := true }
  | .noColor => .ok { o with noColor := true }
  | .noConfig => .ok { o with noConfig := true }
  | .ci => .ok { o with ci := true }
  | .quiet => .ok { o with quiet := true }
  | .verbose => .ok { o with verbose := true }

/-- The options without values that a spelling of one letter and the letters after it join, given those
found so far. -/
def joined (spelling : String) (f : Flag) (found : List Flag) : Text → Except Refusal (List Flag)
  | [] => .ok (found ++ [f])
  | c :: rest =>
    let ignored : Except Refusal (List Flag) :=
      .error (misuse f s!"ignored explicit argument {Text.quoted (c :: rest)}")
    if spelling.toList.take 2 = ['-', '-'] then ignored
    else
      match spellings.lookup (String.ofList ['-', c]) with
      | some g => joined (String.ofList ['-', c]) g (found ++ [f]) rest
      | none => ignored

/-- Takes an option that has a value following at once. -/
def takeWith (o : Options) (spelling : String) (f : Flag) (value : String) : Except Refusal Options :=
  if f.hasValue then take o f value
  else if value.isEmpty then .error (misuse f "ignored explicit argument ''")
  else do (← joined spelling f [] value.toList).foldlM (fun o f => take o f "") o

/-! ### The whole command line -/

/-- What has been read of the command line: the options, whether files have been read, and the arguments
that have no place. -/
structure Parsed where
  options : Options
  filesRead : Bool
  extras : List String
deriving DecidableEq, Repr

/-- The words of arguments. -/
def wordsOf (args : List Argument) : List String :=
  args.filterMap fun
    | .word w => some w
    | .endOfOptions => some "--"
    | _ => none

/-- Takes files that stand together, if no files were taken before and there is a word among them. -/
def takeFiles (p : Parsed) (group : List Argument) : Parsed :=
  let words := wordsOf group
  if p.filesRead ∨ !group.any (fun a => a matches .word _) then { p with extras := p.extras ++ words }
  else { p with filesRead := true, options := { p.options with files := words.erase "--" } }

/-- Reads arguments; files that stand together are collected in `group`. -/
def parseFrom : Parsed → List Argument → List Argument → Except Refusal Parsed
  | p, group, [] => .ok (takeFiles p group)
  | p, group, .word w :: args => parseFrom p (group ++ [.word w]) args
  | p, group, .endOfOptions :: args => parseFrom p (group ++ [.endOfOptions]) args
  | p, group, .unknown text :: args =>
    let p := takeFiles p group
    parseFrom { p with extras := p.extras ++ [text] } [] args
  | p, group, .flag s f (some value) :: args => do
    let p := takeFiles p group
    parseFrom { p with options := ← takeWith p.options s f value } [] args
  | p, group, .flag _ f none :: args => do
    let p := takeFiles p group
    if f.hasValue then
      match args with
      | .word value :: rest => parseFrom { p with options := ← take p.options f value } [] rest
      | _ => throw (misuse f "expected one argument")
    else parseFrom { p with options := ← take p.options f "" } [] args

/-- What the command line asks for. -/
def parse (args : List String) : Except Refusal Options := do
  let p ← parseFrom ⟨{}, false, []⟩ [] (← classifyAll args)
  if !p.filesRead then throw (.usage "the following arguments are required: files")
  if !p.extras.isEmpty then
    throw (.usage ("unrecognized arguments: " ++ String.intercalate " " p.extras))
  return p.options

/-! ### Texts -/

/-- The first part of the help, which is also shown when the command line is malformed. -/
def usage : String :=
  "usage: annolint [-h] [--type \x7btex,md,txt\x7d] [--ignore IGNORE] [--read-all]\n" ++
  "                [--remove REMOVE] [--remove-macros REMOVE_MACROS]\n" ++
  "                [--replace REPLACE] [--clean] [--map MAP]\n" ++
  "                [--output \x7bplain,singleline,json\x7d] [--no-color] [--no-config]\n" ++
  "                [--ci] [--quiet] [--verbose] [--version]\n" ++
  "                files [files ...]\n"

/-- The help. -/
def help : String :=
  usage ++
  "\nCheck the style of LaTeX and Markdown documents.\n" ++
  "\npositional arguments:\n" ++
  "  files                 Files to check ('-' reads stdin)\n" ++
  "\noptions:\n" ++
  "  -h, --help            show this help message and exit\n" ++
  "  --type \x7btex,md,txt\x7d   Markup of the input (default: guessed from the file\n" ++
  "                        extension).\n" ++
  "  --ignore IGNORE       Comma-separated rule names to ignore; '*' is a\n" ++
  "                        wildcard.\n" ++
  "  --read-all            Also check the text before \\begin\x7bdocument\x7d.\n" ++
  "  --remove REMOVE       Comma-separated LaTeX environments to remove.\n" ++
  "  --remove-macros REMOVE_MACROS\n" ++
  "                        Comma-separated LaTeX macros to remove.\n" ++
  "  --replace REPLACE     File of tab-separated pattern/replacement pairs\n" ++
  "                        applied after cleaning.\n" ++
  "  --clean               Print the cleaned text instead of checking it.\n" ++
  "  --map MAP             Write the original-to-cleaned range correspondence as\n" ++
  "                        JSON.\n" ++
  "  --output \x7bplain,singleline,json\x7d\n" ++
  "                        Report format.\n" ++
  "  --no-color            Disable ANSI colors.\n" ++
  "  --no-config           Do not read .annolint.json from the working directory.\n" ++
  "  --ci                  Always exit with code 0.\n" ++
  "  --quiet, -q           Only log errors.\n" ++
  "  --verbose, -v         Log debug details.\n" ++
  "  --version             show program's version number and exit\n"

end CommandLine

/-! ### Options over settings -/

/-- The values of an option that lists several, separated by commas. -/
def Options.listed (values : List String) : List String :=
  ((values.flatMap fun v => (Text.splitOn (· = ',') v.toList).map Text.trim).filter
    (!·.isEmpty)).map String.ofList

/-- Settings with the options of the command line laid over them. Lists are added to, and everything else
that the command line gives takes the place of what there was. -/
def Config.overlay (c : Config) (o : Options) : Config :=
  { language := o.language <|> c.language
    ignore := c.ignore ++ Options.listed o.ignore
    readAll := c.readAll || o.readAll
    environments := c.environments ++ Options.listed o.environments
    macros := c.macros ++ Options.listed o.macros
    replaceFile := o.replaceFile <|> c.replaceFile
    output := o.output.getD c.output
    color := c.color && !o.noColor
    ci := c.ci || o.ci }

end MarkupLint
