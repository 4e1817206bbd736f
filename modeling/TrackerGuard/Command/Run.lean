import TrackerGuard.Command.Invocation
import TrackerGuard.Command.Report
import TrackerGuard.Verdict

/-!
# Running commands

Every command opens the settings and the list of public suffixes first.  `compile` writes the
artifact, `allow`, `disallow` and `flag` change the settings, and the others only read.  A command
that fails prints nothing but why.

Commands are stated for any kind of file: `place` leads from a path to the file.
-/

namespace TrackerGuard.Command

/-- Why a command failed. -/
inductive Fault where
  | settings (path : String) (cause : StoreError)
  | suffixFile (path : String) (cause : IoError)
  | suffixes (cause : SuffixFault)
  | list (path : String) (cause : TrackerList.Fault)
  /-- The artifact could not be written. -/
  | notWritten (path : String)
  | artifactFile (path : String) (cause : IoError)
  | artifact (cause : Json.Fault)
  | unknownFlag (name : String)
  deriving Repr

namespace Fault

/-- That a file cannot be read. -/
def unreadable (path : String) (cause : IoError) : String :=
  "Failed to read '" ++ path ++ "': " ++ cause.message

/-- What failed, up to the words of the JSON reader. -/
def headline : Fault → String
  | .settings path (.io cause) => "I/O error on '" ++ path ++ "': " ++ cause.message
  | .settings path (.malformed _) => "Malformed store '" ++ path ++ "':"
  | .suffixFile path cause => unreadable path cause
  | .suffixes cause => cause.message
  | .list path (.io cause) => unreadable path cause
  | .list _ (.malformed _) => "Invalid domain list JSON:"
  | .list _ .notAList => "Domain list is not a JSON array"
  | .notWritten path => "Failed to write '" ++ path ++ "'"
  | .artifactFile path cause => unreadable path cause
  | .artifact _ => "Invalid rule artifact:"
  | .unknownFlag name =>
    "Unknown flag '" ++ name ++ "' (expected block-requests, block-cookies or upgrade-https)"

/-- The words of the JSON reader, if there are any. -/
def detail? : Fault → Option Json.Fault
  | .settings _ (.malformed cause) => some cause
  | .list _ (.malformed cause) => some cause
  | .artifact cause => some cause
  | _ => none

/-- The wording of a fault. -/
def message (f : Fault) : String :=
  f.headline ++ (f.detail?.elim "" fun cause => " " ++ cause.message)

end Fault

/-! ## Compiling -/

/-- Why an artifact was not written. -/
inductive CompileFault where
  /-- The list cannot be loaded, and an empty artifact is not wanted. -/
  | list (cause : TrackerList.Fault)
  | notWritten
  deriving DecidableEq, Repr

variable {σ ψ φ : Type} [SettingsStore σ] [TextFile ψ] [TextFile φ]

/-- Compiles the tracker list into the artifact; a list that cannot be loaded counts as empty. -/
def writeAnyArtifact (resolver : Resolver) (store : σ) (list : ψ) (artifact : φ) :
    Except CompileFault WriteReport × φ :=
  let desk : Desk ψ φ :=
    { resolver := resolver
      list := list
      safelist := (Safelist.load store resolver).sites
      features := Features.ofStore store
      artifact := artifact }
  let done := (Writer.regenerate ⟨{}, desk⟩ 1).desk
  match done.report.filter (·.written) with
  | some report => (.ok report, done.artifact)
  | none => (.error .notWritten, done.artifact)

/-- Compiles the tracker list into the artifact.  With `strict` set, a list that cannot be loaded is
a fault and nothing is written. -/
def writeArtifact (resolver : Resolver) (store : σ) (list : ψ) (strict : Bool) (artifact : φ) :
    Except CompileFault WriteReport × φ :=
  if strict then
    match TrackerList.ofFile list with
    | .ok _ => writeAnyArtifact resolver store list artifact
    | .error cause => (.error (.list cause), artifact)
  else writeAnyArtifact resolver store list artifact

/-! ## Tasks -/

/-- What a command printed, or why it failed, and the file that it may have written. -/
structure Ran (φ : Type) where
  result : Except Fault (List String)
  file : φ

/-- A task that ended well. -/
def Ran.ok (file : φ) (lines : List String) : Ran φ := ⟨.ok lines, file⟩

/-- A task that failed. -/
def Ran.failed (file : φ) (fault : Fault) : Ran φ := ⟨.error fault, file⟩

/-- The resolver for a path of a list of public suffixes. -/
def openResolver (place : String → φ) (path : Option String) : Except Fault Resolver :=
  match path with
  | none => .ok .builtIn
  | some path =>
    match TextFile.read (place path) with
    | .error cause => .error (.suffixFile path cause)
    | .ok text => (Resolver.ofText? (some text)).mapError .suffixes

/-- Decides the requests of a page one after another. -/
def decideAll (index : DomainIndex) (safelist : Safelist σ) (page : String)
    (requests : List String) : List (String × Bool) × PageRecord :=
  let (verdicts, log) := requests.foldl
    (fun (verdicts, log) request =>
      let (blocked, log) := Verdict.record index safelist request page log
      ((request, blocked) :: verdicts, log))
    (([] : List (String × Bool)), ({} : PageRecord))
  (verdicts.reverse, log)

/-- Changes the safelist and tells about it. -/
def runSafelistChange (path : String) (store : FileStore φ) (resolver : Resolver)
    (allowing : Bool) (host : String) : Ran φ :=
  let safelist := Safelist.load store resolver
  let (result, safelist) := if allowing then safelist.allow host else safelist.disallow host
  match result with
  | .ok changed =>
    .ok safelist.store.file (safelistLines allowing changed (resolver.registrable host))
  | .error e => .failed safelist.store.file (.settings path e)

/-- Changes a flag. -/
def applyChange (store : FileStore φ) (f : Flag) (change : Option FlagChange) :
    Except StoreError Unit × FileStore φ :=
  match change with
  | none => (.ok (), store)
  | some .reset => f.reset store
  | some (.set enabled) => f.set enabled store
  | some .toggle =>
    match f.toggle store with
    | (.ok _, store) => (.ok (), store)
    | (.error e, store) => (.error e, store)

/-- Shows a flag after changing it, or all flags when none is named. -/
def runFlag (path : String) (store : FileStore φ) (name : Option String)
    (change : Option FlagChange) : Ran φ :=
  match name with
  | none => .ok store.file (Flag.all.map (flagLine store))
  | some name =>
    match Flag.ofName? name with
    | none => .failed store.file (.unknownFlag name)
    | some f =>
      match applyChange store f change with
      | (.ok (), store) => .ok store.file [flagLine store f]
      | (.error e, store) => .failed store.file (.settings path e)

/-- Does a task with the settings open. -/
def runTask (place : String → φ) (path : String) (store : FileStore φ) (resolver : Resolver) :
    Task → Ran φ
  | .compile list output strict =>
    match writeArtifact resolver store (place list) strict (place output) with
    | (.ok report, file) =>
      .ok file (compileLines list output (Features.ofStore store) report)
    | (.error (.list cause), file) => .failed file (.list list cause)
    | (.error .notWritten, file) => .failed file (.notWritten output)
  | .info input =>
    match TextFile.read (place input) with
    | .error cause => .failed store.file (.artifactFile input cause)
    | .ok text =>
      match Rule.readAll text with
      | .error cause => .failed store.file (.artifact cause)
      | .ok rules => .ok store.file (infoLines input text.utf8ByteSize rules)
  | .check list page json requests =>
    match TrackerList.ofFile (place list) with
    | .error cause => .failed store.file (.list list cause)
    | .ok domains =>
      let safelist := Safelist.load store resolver
      let (verdicts, log) := decideAll (.ofDomains domains) safelist page requests
      let summary := log.summary resolver
      .ok store.file
        (if json then [(summaryDocument summary).pretty] else checkLines page verdicts summary)
  | .allow host => runSafelistChange path store resolver true host
  | .disallow host => runSafelistChange path store resolver false host
  | .safelist => .ok store.file (sitesLines (Safelist.load store resolver).sites)
  | .flag name change => runFlag path store name change

/-- Runs an invocation. -/
def run (place : String → φ) (i : Invocation) : Ran φ :=
  match FileStore.ofFile? (place i.store) with
  | .error e => .failed (place i.store) (.settings i.store e)
  | .ok store =>
    match openResolver place i.psl with
    | .error fault => .failed store.file fault
    | .ok resolver => runTask place i.store store resolver i.task

end TrackerGuard.Command
