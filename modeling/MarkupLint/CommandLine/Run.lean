import MarkupLint.CommandLine.Options
import MarkupLint.Files
import MarkupLint.Report.Format

/-!
A run of the program. The files of the command line are cleaned or linted one after the other, and after
them the files that they include; a file is taken up once under each of its names. What a run does
with files is left to a host, so that it can be a file system or a tree of files in memory.
-/

namespace MarkupLint

/-- What a run asks of its surroundings. -/
structure Host (m : Type → Type) where
  /-- The bytes of a file. -/
  read : Path → m (Except FileError (List UInt8))
  /-- Whether there is a file at a path. -/
  isFile : Path → m (Except FileError Bool)
  /-- Writes a file, and makes the directories around it. -/
  write : Path → List UInt8 → m (Except FileError Unit)
  /-- The text of the standard input. -/
  input : m Text

namespace CommandLine

/-- What ends a run early. -/
inductive Failure where
  | lint (e : LintError)
  | config (e : ConfigError)
  | file (e : FileError)

/-- The wording of a failure. -/
def Failure.message : Failure → String
  | lint e => e.wording
  | config e => e.message
  | file e => e.message

/-- Whether a failure is reported in the log. A group name that a table of replacements gets wrong is not:
it ends the program, and so does a file name that no file system takes. -/
def Failure.isReported : Failure → Bool
  | lint e => e.isReported
  | config _ => true
  | file e => e.problem.number?.isSome

/-- What a run has written so far. -/
structure Transcript where
  /-- The standard output. -/
  output : String := ""
  /-- The log. -/
  log : List LogEntry := []
deriving DecidableEq, Repr

/-- A part of a run. -/
abbrev Session (m : Type → Type) := ExceptT Failure (StateT Transcript m)

section

variable {m : Type → Type} [Monad m]

/-- Adds messages to the log. -/
def note (entries : List LogEntry) : Session m Unit :=
  modify fun t => { t with log := t.log ++ entries }

/-- Adds a text to the standard output. -/
def print (text : String) : Session m Unit :=
  modify fun t => { t with output := t.output ++ text }

/-- Asks the host for something. -/
def ask {α : Type} (question : m (Except FileError α)) : Session m α := do
  match ← (liftM question : Session m _) with
  | .ok a => return a
  | .error e => throw (.file e)

/-! ### Settings and files -/

/-- The name of the file of settings. -/
def configFile : Path := ⟨[], [".annolint.json".toList]⟩

/-- The settings of the working directory. -/
def loadConfig (host : Host m) : Session m Config := do
  let name := String.ofList configFile.render
  if !(← ask (host.isFile configFile)) then
    note [⟨.debug, s!"No config file at {name}"⟩]
    return {}
  let bytes ← match ← (liftM (host.read configFile) : Session m _) with
    | .ok bytes => pure bytes
    | .error e => throw (.config (.unreadable name e.message))
  let fields ← match Config.objectOf name bytes with
    | .ok fields => pure fields
    | .error e => throw (.config e)
  note (⟨.info, s!"Loaded config from {name}"⟩ :: Config.fieldWarnings fields)
  match Config.ofFields fields with
  | .ok config => return config
  | .error e => throw (.config e)

/-- The table of replacements that settings name. -/
def loadTable (host : Host m) (config : Config) : Session m (Option Table) := do
  match config.tableFile? with
  | none => return none
  | some file =>
    let path := Path.ofText file.toList
    let lines := (Text.ofFile (← ask (host.read path))).brokenLines
    note (Config.tableNotes path.render lines)
    return some (.ofLines lines)

/-- The name of the standard input. -/
def inputName : String := "-"

/-- The text of a file, or of the standard input. -/
def readInput (host : Host m) (name : String) : Session m Text := do
  if name = inputName then liftM host.input
  else return .ofFile (← ask (host.read (.ofText name.toList)))

/-- The names of the included files that exist, as seen from the file that includes them. -/
def includedNames (host : Host m) (name : String) : List Text → Session m (List String)
  | [] => return []
  | file :: files => do
    let path := (Path.ofText name.toList).parent.join (.ofText file)
    let text := String.ofList path.render
    let found ← ask (host.isFile path)
    if !found then note [⟨.warning, s!"Included file not found: {text}"⟩]
    let more ← includedNames host name files
    return if found then text :: more else more

/-! ### One file -/

/-- What a run has found. -/
structure Findings where
  /-- The advice. -/
  report : Report
  /-- The mappings of cleaned files. -/
  maps : List (String × Json)

/-- A mapping as JSON. -/
def mappingJson (v : Mapping) : Json :=
  let bounds (r : Range) : Json := .arr [.int r.start, .int r.stop]
  .arr (v.pairs.map fun p => .obj [("input", bounds p.input), ("output", bounds p.output)])

/-- Takes up a file, and gives the names of the files that it includes. -/
def process (host : Host m) (o : Options) (config : Config) (f : Findings) (name : String) :
    Session m (Findings × List String) := do
  note (config.languageNotes name.toList)
  let language := config.languageOf name.toList
  let table ← loadTable host config
  let linter := config.linter language table
  note (config.linterWarnings language table)
  let d := Document.ofLines (← readInput host name) (if name = inputName then "" else name)
  let wantsMap := o.map.any (!·.isEmpty)
  let mut f := f
  if o.clean || wantsMap then
    note (if o.verbose then linter.cleaner.cleanNotes d else [])
    match linter.clean d with
    | .error e => throw (.lint e)
    | .ok cleaned =>
      f := { f with maps := Json.insertField f.maps name (mappingJson cleaned.composed) }
      if o.clean then print (String.ofList cleaned.current ++ "\n")
  if !o.clean then
    note (if o.verbose then linter.notes d else [])
    match linter.evaluate d with
    | .error e => throw (.lint e)
    | .ok advice =>
      note [⟨.info, s!"{name}: {advice.length} warning(s)"⟩]
      f := { f with report := f.report.add d.resource advice }
  let included ← if name = inputName then pure []
    else includedNames host name (linter.cleaner.includedFiles d)
  return (f, included)

/-! ### All files -/

/-- More than there are names of included files. Such a name is that of a file that was found, so it has at
most `Path.maxLength` bytes, and there are fewer than `256 ^ 4096` of these. -/
def nameBound : Nat := Nat.pow (Nat.pow 2 256) 128

/-- Takes up the first file of the queue that has not been seen, adds the files that it includes to the end
of the queue, and goes on until none is left; `fuel` bounds the number of files taken up. -/
def processAll (host : Host m) (o : Options) (config : Config) :
    Nat → List String → Findings → List String → Session m Findings
  | 0, _, f, _ => return f
  | fuel + 1, seen, f, queue =>
    match queue.dropWhile seen.contains with
    | [] => return f
    | name :: queue => do
      let (f, included) ← process host o config f name
      processAll host o config fuel (name :: seen) f (queue ++ included)

/-- The greatest exit code. -/
def maxExitCode : Nat := 255

/-- A run; gives the exit code, which is the number of pieces of advice. -/
def runSession (host : Host m) (o : Options) : Session m Nat := do
  let config := (← if o.noConfig then pure {} else loadConfig host).overlay o
  let first := (o.files.head?.getD "").toList
  note (config.languageNotes first)
  let f ← processAll host o config (o.files.length + nameBound) [] ⟨.empty, []⟩ o.files
  if let some file := o.map.filter (!·.isEmpty) then
    let path := Path.ofText file.toList
    ask (host.write path (Text.toUtf8 (Json.obj f.maps).pretty.toList))
    note [⟨.info, s!"Wrote correspondence map to {file}"⟩]
  if o.clean then return 0
  print (f.report.render config.output config.color (config.languageOf first).code)
  return if config.ci then 0 else min f.report.count maxExitCode

end

/-- How a run ended, and what it wrote. -/
structure Outcome where
  /-- The exit code, or the failure that ended the program. -/
  result : Except Failure Nat
  /-- The standard output. -/
  output : String
  /-- The standard error. -/
  errors : String

/-- The level from which on messages are shown. -/
def levelOf (o : Options) : Level :=
  if o.verbose then .debug else if o.quiet then .error else .warning

/-- The log as it is shown. -/
def renderLog (o : Options) (log : List LogEntry) : String :=
  String.join ((log.filter (·.shownFrom (levelOf o))).map fun e => e.render ++ "\n")

/-- A run of the program with the given arguments. -/
def run {m : Type → Type} [Monad m] (host : Host m) (args : List String) : m Outcome := do
  match parse args with
  | .error .help => return ⟨.ok 0, help, ""⟩
  | .error .version => return ⟨.ok 0, s!"annolint {Report.version}\n", ""⟩
  | .error (.usage why) => return ⟨.ok 2, "", usage ++ s!"annolint: error: {why}\n"⟩
  | .ok o =>
    let (result, t) ← ((runSession host o).run).run {}
    match result with
    | .ok code => return ⟨.ok code, t.output, renderLog o t.log⟩
    | .error e =>
      if e.isReported then
        return ⟨.ok 1, t.output, renderLog o (t.log ++ [⟨.error, e.message⟩])⟩
      else return ⟨.error e, t.output, renderLog o t.log⟩

/-! ### A run on a tree of files -/

/-- A host that keeps the files in memory and has a given standard input, which is read once. -/
def treeHost : Host (StateM (Tree × Text)) where
  read p := return (← get).1.read p
  isFile p := return (← get).1.isFile p
  write p bytes := do
    let (t, input) ← get
    match t.write p bytes with
    | .ok t => set (t, input); return .ok ()
    | .error e => return .error e
  input := do
    let (t, input) ← get
    set ((t, []) : Tree × Text)
    return input.unifyLineBreaks

/-- A run on a tree of files; gives the tree afterwards as well. -/
def runOnTree (t : Tree) (input : Text) (args : List String) : Outcome × Tree :=
  let (outcome, after, _) := (run treeHost args).run (t, input)
  (outcome, after)

end CommandLine

end MarkupLint
