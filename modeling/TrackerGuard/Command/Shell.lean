import TrackerGuard.Command.Run
import TrackerGuard.Storage.Disk

/-!
# Running the program on a disk

The exit status of the program is 0 when the command did what it was asked for, 1 when it failed,
and 2 when the arguments were not understood.
-/

namespace TrackerGuard.Command

/-- What a run of the program leaves to be seen. -/
structure Exit where
  status : Nat
  /-- The lines that were printed. -/
  output : List String := []
  fault : Option Fault := none
  deriving Repr

/-- The exit of a command. -/
def Exit.ofResult : Except Fault (List String) → Exit
  | .ok lines => ⟨0, lines, none⟩
  | .error fault => ⟨1, [], some fault⟩

/-- The exit when the arguments lead to no command. -/
def Exit.ofRefusal : Refusal → Exit
  | .help => ⟨0, [], none⟩
  | .misused => ⟨2, [], none⟩

/-- Runs the program. -/
def runOnDisk (env : Environment) (disk : Disk) (arguments : List String) : Exit × Disk :=
  match Invocation.ofArguments env arguments with
  | .error refusal => (.ofRefusal refusal, disk)
  | .ok invocation =>
    let ran := run (DiskFile.mk disk) invocation
    (.ofResult ran.result, ran.file.disk)

/-- Runs the program again and again. -/
def runAllOnDisk (env : Environment) (disk : Disk) : List (List String) → List Exit × Disk
  | [] => ([], disk)
  | arguments :: rest =>
    let (exit, disk) := runOnDisk env disk arguments
    let (exits, disk) := runAllOnDisk env disk rest
    (exit :: exits, disk)

end TrackerGuard.Command
