import TrackerGuard.Storage.File

/-!
# A disk

Files and directories by location, as far as a program sees them that reads files and replaces them.
A path is followed step by step from the directory that the program works in; on the way everything
must be a directory.  A file is replaced through a temporary file beside it: the directories above
it are made first, then the new file takes the place of the old one, which fails where a directory
has that place.
-/

namespace TrackerGuard

/-- What is at a location. -/
inductive Disk.Node where
  | file (text : String)
  | directory
  deriving DecidableEq, Repr

/-- Files and directories.  A location is the list of names that leads to it. -/
structure Disk where
  nodes : List (List String × Disk.Node) := []

namespace Disk

/-- The directory that programs work in. -/
def home : List String := ["home"]

/-- What is at a location, if anything is. -/
def node? (d : Disk) (location : List String) : Option Node :=
  if location = [] ∨ location = home then some .directory else d.nodes.lookup location

/-- Puts something at a location. -/
def put (d : Disk) (location : List String) (node : Node) : Disk :=
  ⟨(location, node) :: d.nodes.filter (·.1 ≠ location)⟩

/-- The steps of a path: names, `.`, `..` and, beside and behind slashes, nothing. -/
def steps (path : String) : List String := (path.toList.splitOn '/').map String.ofList

/-- Where a path starts. -/
def origin (path : String) : List String := if path.toList.head? = some '/' then [] else home

/-- Follows steps from a location. -/
def follow (d : Disk) (location : List String) : List String → Except IoError (List String)
  | [] => .ok location
  | step :: rest =>
    match d.node? location with
    | none => .error .notFound
    | some (.file _) => .error .notADirectory
    | some .directory =>
      if step = "" ∨ step = "." then follow d location rest
      else if step = ".." then follow d location.dropLast rest
      else follow d (location ++ [step]) rest

/-- The text of the file of a path. -/
def read (d : Disk) (path : String) : Except IoError String := do
  if path = "" then .error .notFound
  match d.node? (← d.follow (origin path) (steps path)) with
  | none => .error .notFound
  | some .directory => .error .isADirectory
  | some (.file text) => .ok text

/-! ## Replacing files -/

/-- The steps of a path that lead somewhere. -/
def properSteps (path : String) : List String :=
  (steps path).filter fun step => step ≠ "" ∧ step ≠ "."

/-- Makes the directory to which steps lead, unless it is there. -/
def makeDirectory (d : Disk) (start : List String) (way : List String) :
    Except IoError Unit × Disk :=
  match d.follow start way with
  | .error e => (.error e, d)
  | .ok location =>
    match d.node? location with
    | none => (.ok (), d.put location .directory)
    | some .directory => (.ok (), d)
    | some (.file _) => (.error .notADirectory, d)

/-- Makes the directories along steps; `way` are the steps before. -/
def makeDirectories (d : Disk) (start way : List String) :
    List String → Except IoError Unit × Disk
  | [] => (.ok (), d)
  | step :: rest =>
    match d.makeDirectory start (way ++ [step]) with
    | (.ok (), d) => makeDirectories d start (way ++ [step]) rest
    | (.error e, d) => (.error e, d)

/-- The location that a new file of a path would take. -/
def destination (d : Disk) (path : String) : Except IoError (List String) := do
  let way := steps path
  match way.getLast? with
  | none | some "" => .error .notADirectory
  | some step =>
    let above ← d.follow (origin path) way.dropLast
    match d.node? above with
    | none => .error .notFound
    | some (.file _) => .error .notADirectory
    | some .directory =>
      if step = "." ∨ step = ".." then .error .busy
      else
        let location := above ++ [step]
        if d.node? location = some .directory then .error .isADirectory else pure location

/-- Replaces the file of a path. -/
def write (d : Disk) (path text : String) : Except IoError Unit × Disk :=
  match d.makeDirectories (origin path) [] (properSteps path).dropLast with
  | (.error e, d) => (.error e, d)
  | (.ok (), d) =>
    match d.destination path with
    | .ok location => (.ok (), d.put location (.file text))
    | .error e => (.error e, d)

/-! ## All files -/

/-- A disk with a directory for each of some paths, made with those above it. -/
def withDirectories (d : Disk) (paths : List String) : Disk :=
  paths.foldl (fun d path => (d.makeDirectories (origin path) [] (properSteps path)).2) d

/-- A disk with a file for each of some paths and texts. -/
def withFiles (d : Disk) (files : List (String × String)) : Disk :=
  files.foldl (fun d (path, text) => (d.write path text).2) d

/-- The files below the directory that programs work in, by path. -/
def files (d : Disk) : List (String × String) :=
  d.nodes.filterMap fun (location, node) =>
    match node with
    | .file text =>
      if home.isPrefixOf location then some ("/".intercalate (location.drop home.length), text)
      else none
    | .directory => none

end Disk

/-- The file of a path on a disk. -/
structure DiskFile where
  disk : Disk
  path : String

namespace DiskFile

/-- The text of the file. -/
def read (f : DiskFile) : Except IoError String := f.disk.read f.path

/-- Replaces the text of the file. -/
def write (f : DiskFile) (text : String) : Except IoError Unit × DiskFile :=
  let (result, disk) := f.disk.write f.path text
  (result, { f with disk := disk })

instance : TextFile DiskFile := ⟨read, write⟩

end DiskFile

end TrackerGuard
