import MarkupLint.CommandLine.Run

/-!
The program: a run on the file system, with the standard streams.
-/

namespace MarkupLint

/-- The problem that an error of the file system tells of. -/
def FileProblem.ofError : IO.Error → FileProblem
  | .inappropriateType .. => .isDirectory
  | .alreadyExists .. => .taken
  | .invalidArgument .. => .nameTooLong
  | _ => .notFound

/-- A step on the file system, with its errors as those of a path. -/
def onPath {α : Type} (p : Path) (step : IO α) : IO (Except FileError α) := do
  try return .ok (← step)
  catch e => return .error ⟨.ofError e, p⟩

/-- The bytes of a stream up to its end. -/
partial def readAllBytes (stream : IO.FS.Stream) (done : ByteArray) : IO ByteArray := do
  let bytes ← stream.read 65536
  if bytes.isEmpty then return done else readAllBytes stream (done ++ bytes)

/-- The file system and the standard input. -/
def fileSystem : Host IO where
  read p := onPath p do return (← IO.FS.readBinFile (String.ofList p.render)).toList
  isFile p := do
    match ← onPath p (IO.FS.readBinFile (String.ofList p.render)) with
    | .ok _ => return .ok true
    | .error ⟨.nameTooLong, p⟩ => return .error ⟨.nameTooLong, p⟩
    | .error _ => return .ok false
  write p bytes := onPath p do
    IO.FS.createDirAll (String.ofList p.parent.render)
    IO.FS.writeBinFile (String.ofList p.render) ⟨bytes.toArray⟩
  input := do
    let bytes ← readAllBytes (← IO.getStdin) ByteArray.empty
    return (Text.ofUtf8Lossy bytes.toList).unifyLineBreaks

end MarkupLint

/-- Runs the program on the file system and gives its exit code. -/
def main (args : List String) : IO UInt32 := do
  let outcome ← MarkupLint.CommandLine.run MarkupLint.fileSystem args
  IO.print outcome.output
  IO.eprint outcome.errors
  match outcome.result with
  | .ok code => return code.toUInt32
  | .error e =>
    IO.eprintln e.message
    return 1
