import TrackerGuard.Command.Shell

/-!
# The program

The outer layer of the command line: arguments, environment, files and printing.  The files that an
invocation names are read first; the command is then run on what was read, and if it wrote a file,
that file is replaced, also by the same text.  If that fails, the command is run again with the
failure known beforehand.
-/

namespace TrackerGuard.Command

/-- A file that has been read. -/
structure LoadedFile where
  path : String
  cell : FileCell
  /-- The text that was written, if any was. -/
  written : Option String := none

namespace LoadedFile

/-- Replaces the text. -/
def write (f : LoadedFile) (text : String) : Except IoError Unit × LoadedFile :=
  match f.cell.write text with
  | (.ok (), cell) => (.ok (), { f with cell := cell, written := some text })
  | (.error e, cell) => (.error e, { f with cell := cell })

instance : TextFile LoadedFile := ⟨fun f => f.cell.read, write⟩

/-- The reason for a failure of the operating system. -/
def reason (e : IO.Error) : IoError :=
  match e with
  | .noFileOrDirectory _ _ _ => .notFound
  | .inappropriateType _ code _ => if code = 20 then .notADirectory else .isADirectory
  | .resourceBusy _ _ => .busy
  | .userError _ => .notText
  | _ => .refused

/-- Reads a file. -/
def load (path : String) : IO LoadedFile := do
  let content : FileContent ←
    try
      pure (.text (← IO.FS.readFile path))
    catch e =>
      match reason e with
      | .notFound => pure .missing
      | cause => pure (.unreadable cause)
  pure { path := path, cell := { content := content } }

/-- The directory of a path, and the name of a new file beside it. -/
def temporary (path : String) : String × String :=
  let (name, above) := path.toList.reverse.span (· != '/')
  let directory := if above.isEmpty then "." else String.ofList above.reverse
  (directory, directory ++ "/." ++ String.ofList name.reverse ++ ".tmp")

/-- Gives a finished file its name, or removes it. -/
def publish (beside path : String) : IO (Option IoError) := do
  try
    IO.FS.rename beside path
    pure none
  catch e =>
    IO.FS.removeFile beside
    pure (some (reason e))

/-- Replaces a file as a whole. -/
def replace (path text : String) : IO (Option IoError) := do
  let (directory, beside) := temporary path
  try
    IO.FS.createDirAll directory
    IO.FS.writeFile beside text
    publish beside path
  catch e => pure (some (reason e))

end LoadedFile

/-- The paths of the files that an invocation names. -/
def Invocation.paths (i : Invocation) : List String :=
  [i.store] ++ i.psl.toList ++
    match i.task with
    | .compile list output _ => [list, output]
    | .info input => [input]
    | .check list _ _ _ => [list]
    | _ => []

/-- What the environment gives to options. -/
def readEnvironment : IO Environment := do
  pure
    { store := ← IO.getEnv "TP_STORE"
      psl := ← IO.getEnv "TP_PSL"
      list := ← IO.getEnv "TP_TRACKER_LIST"
      artifact := ← IO.getEnv "TP_ARTIFACT" }

/-- Runs a command on files that have been read, where writing one of them may be known to fail. -/
def runLoaded (files : List LoadedFile) (obstacle : Option IoError) (i : Invocation) :
    Ran LoadedFile :=
  run
    (fun path =>
      let cell := ((files.find? (·.path == path)).map (·.cell)).getD {}
      { path := path, cell := { cell with obstacle := obstacle } })
    i

/-- Runs an invocation. -/
def perform (i : Invocation) : IO Exit := do
  let files ← i.paths.mapM LoadedFile.load
  let ran := runLoaded files none i
  match ran.file.written with
  | none => pure (.ofResult ran.result)
  | some text =>
    match ← LoadedFile.replace ran.file.path text with
    | none => pure (.ofResult ran.result)
    | some e => pure (.ofResult (runLoaded files (some e) i).result)

/-- How the program is called. -/
def usage : String :=
  "Usage: tp-cli [--store FILE] [--psl FILE] COMMAND\n\n" ++
  "Commands:\n" ++
  "  compile  --list FILE [--output FILE] [--strict]\n" ++
  "  info     [--input FILE]\n" ++
  "  check    --list FILE --page URL [--json] REQUEST...\n" ++
  "  allow    DOMAIN\n" ++
  "  disallow DOMAIN\n" ++
  "  safelist\n" ++
  "  flag     [NAME] [--set BOOL | --toggle | --reset]"

/-- A duration in milliseconds, to one decimal. -/
def milliseconds (nanoseconds : Nat) : String :=
  let tenths := roundDiv nanoseconds 100000
  toString (tenths / 10) ++ "." ++ toString (tenths % 10) ++ "ms"

/-- The line about the time that a compilation took. -/
def timeLines (i : Invocation) (exit : Exit) (nanoseconds : Nat) : List String :=
  match i.task with
  | .compile _ _ _ =>
    if exit.status = 0 then ["  Time:      " ++ milliseconds nanoseconds] else []
  | _ => []

end TrackerGuard.Command

open TrackerGuard.Command

/-- Runs the program. -/
def main (arguments : List String) : IO UInt32 := do
  match Invocation.ofArguments (← readEnvironment) arguments with
  | .error .help =>
    IO.println usage
    pure 0
  | .error .misused =>
    IO.eprintln usage
    pure 2
  | .ok invocation =>
    let start ← IO.monoNanosNow
    let exit ← perform invocation
    let stop ← IO.monoNanosNow
    for line in exit.output ++ timeLines invocation exit (stop - start) do
      IO.println line
    match exit.fault with
    | some fault => IO.eprintln ("Error: " ++ fault.message)
    | none => pure ()
    pure exit.status.toUInt32
