import TrackerGuard.Artifact.Writer
import TrackerGuard.Storage.Folder
import TrackerGuard.Verdict

/-!
# Sessions

A session is everything that an application keeps at run time: its settings with the flags and the
safelist, the tracker index, the record of the page on show and those of pages that were left, the
file of the tracker list, and the rule artifact with its writer.  A step of a session is one thing
that the application does with it.

A step that fails leaves the session as it was, and the session goes on.
-/

namespace TrackerGuard

/-! ## The settings of a session -/

/-- The store that a session keeps its settings in. -/
inductive SessionStore where
  | transient (s : TransientStore)
  | frail (s : FrailStore)
  | file (s : FileStore FileCell)

namespace SessionStore

/-- The value under a key. -/
def get? (s : SessionStore) (k : String) : Option Json :=
  match s with
  | .transient s => SettingsStore.get? s k
  | .frail s => SettingsStore.get? s k
  | .file s => SettingsStore.get? s k

/-- Puts a value under a key. -/
def set (s : SessionStore) (k : String) (v : Json) : Except StoreError Unit × SessionStore :=
  match s with
  | .transient s => let (r, s) := SettingsStore.set s k v; (r, .transient s)
  | .frail s => let (r, s) := SettingsStore.set s k v; (r, .frail s)
  | .file s => let (r, s) := SettingsStore.set s k v; (r, .file s)

/-- Removes a key. -/
def remove (s : SessionStore) (k : String) : Except StoreError Unit × SessionStore :=
  match s with
  | .transient s => let (r, s) := SettingsStore.remove s k; (r, .transient s)
  | .frail s => let (r, s) := SettingsStore.remove s k; (r, .frail s)
  | .file s => let (r, s) := SettingsStore.remove s k; (r, .file s)

instance : SettingsStore SessionStore := ⟨get?, set, remove⟩

/-- The text of the file that holds the settings. -/
def fileText? : SessionStore → Option String
  | .file s =>
    match s.file.content with
    | .text content => some content
    | _ => none
  | _ => none

/-- Lets writes fail from now on, or no longer. -/
def setFailing (s : SessionStore) (failing : Bool) : SessionStore :=
  match s with
  | .transient s => .transient s
  | .frail s => .frail { s with refuses := failing }
  | .file s =>
    let obstacle := if failing then some IoError.isADirectory else none
    .file { s with file := { s.file with obstacle := obstacle } }

/-- Opens the store again: settings on file are read from it. -/
def reopen (s : SessionStore) : Except StoreError SessionStore :=
  match s with
  | .file s => (FileStore.ofFile? s.file).map .file
  | s => .ok s

/-- Sets values one after another. -/
def setAll (s : SessionStore) (values : Dictionary Json) : SessionStore :=
  values.foldl (fun s (k, v) => (s.set k v).2) s

end SessionStore

/-! ## A session and its steps -/

/-- What an application keeps at run time. -/
structure Session where
  safelist : Safelist SessionStore
  index : DomainIndex := {}
  page : PageRecord := {}
  pages : PageCache := {}
  /-- The file of the tracker list. -/
  list : FileCell := {}
  artifact : Shelf := {}
  /-- The outcome of the last write of the artifact. -/
  report : Option WriteReport := none
  /-- The requests to write it. -/
  requests : Coalescer.State WriteRequest := {}

/-- What can stand in the way of writing the artifact. -/
inductive Session.Block where
  /-- The new artifact cannot be prepared. -/
  | preparation
  /-- A directory has the place of the artifact. -/
  | place
  /-- Nothing. -/
  | none
  deriving DecidableEq, Repr

/-- A step of a session. -/
inductive Session.Step where
  | get (key : String)
  | has (key : String)
  | set (key : String) (value : Json)
  | remove (key : String)
  | settingsText
  | setFailing (failing : Bool)
  | reopen
  | flag (f : Flag)
  | setFlag (f : Flag) (enabled : Bool)
  | toggleFlag (f : Flag)
  | resetFlag (f : Flag)
  | features
  | allow (host : String)
  | disallow (host : String)
  | contains (host : String)
  | exempts (site : String)
  | sites
  | registrable (host : String)
  | install (domains : List String)
  /-- Loads the index in the background; without domains the load fails. -/
  | load (domains : Option (List String))
  | index
  | indexContains (domain : String)
  | blocks (request page : String)
  | record (request page : String)
  | recordHost (host : String)
  | page
  | resetPage
  | summary
  | rememberPage (url : String)
  | forgetPage (url : String)
  | recallPage (url : String)
  | setList (text : Option String)
  | compile
  | compileOrEmpty
  | regenerate (times : Nat)
  | report
  | artifact
  | blockArtifact (b : Block)
  | artifactFiles

/-- The result of a step. -/
inductive Session.Outcome where
  | done
  | truth (b : Bool)
  | count (n : Nat)
  | value (v : Option Json)
  | text (t : Option String)
  | site (s : String)
  | sites (sites : List String)
  | flag (isOn isStored : Bool)
  | features (f : Features)
  | index (ready : Bool) (size : Nat)
  | page (hosts : List String)
  | recalled (hosts : List String)
  | pages (n : Nat)
  | summary (s : PageSummary)
  | compilation (c : Compilation)
  /-- Rules that were compiled whether or not the list could be loaded. -/
  | anyCompilation (c : Compilation)
  | report (r : Option WriteReport)
  | artifact (isFile : Bool) (text : Option String)
  | storeFault (e : StoreError)
  | listFault (e : TrackerList.Fault)

namespace Session

/-- The session that starts with a store and a tracker list. -/
def ofStore (store : SessionStore) (resolver : Resolver) (list : FileCell) : Session where
  safelist := Safelist.load store resolver
  list := list

/-- The store of the settings. -/
def store (s : Session) : SessionStore := s.safelist.store

/-- Replaces the store of the settings. -/
def withStore (s : Session) (store : SessionStore) : Session :=
  { s with safelist := { s.safelist with store := store } }

/-- The desk at which the artifact is written. -/
def desk (s : Session) : Desk FileCell Shelf where
  resolver := s.safelist.resolver
  list := s.list
  safelist := s.safelist.sites
  features := Features.ofStore s.store
  artifact := s.artifact
  report := s.report

/-- A change of the store as a step. -/
def changeStore (s : Session) (change : Except StoreError Unit × SessionStore) :
    Outcome × Session :=
  match change with
  | (.ok (), store) => (.done, s.withStore store)
  | (.error e, store) => (.storeFault e, s.withStore store)

/-- A change of the safelist as a step. -/
def changeSafelist (s : Session) (change : Except StoreError Bool × Safelist SessionStore) :
    Outcome × Session :=
  match change with
  | (.ok changed, safelist) => (.truth changed, { s with safelist := safelist })
  | (.error e, safelist) => (.storeFault e, { s with safelist := safelist })

/-- Opens the settings again and starts a new writer; the index and the pages stay. -/
def reopen (s : Session) : Outcome × Session :=
  match s.store.reopen with
  | .error e => (.storeFault e, s)
  | .ok store =>
    (.done,
      { s with
        safelist := Safelist.load store s.safelist.resolver
        report := none
        requests := {} })

/-- Asks for the artifact a number of times and waits for it. -/
def regenerate (s : Session) (times : Nat) : Session :=
  let w := Writer.regenerate ⟨s.requests, s.desk⟩ times
  { s with artifact := w.desk.artifact, report := w.desk.report, requests := w.requests }

/-- Puts something in the way of writing the artifact, in place of what was in the way before. -/
def blockArtifact (s : Session) (b : Block) : Session :=
  let content :=
    if b = .place then FileContent.unreadable .isADirectory
    else if s.artifact.content = .unreadable .isADirectory then .missing
    else s.artifact.content
  let beside := if b = .preparation then FileContent.unreadable .isADirectory else .missing
  { s with artifact := ⟨content, beside⟩ }

/-- How many files of the artifact there are: the artifact, and the temporary file or what stands in
its place. -/
def artifactFiles (s : Session) : Nat :=
  (if s.artifact.content = .missing then 0 else 1) + (if s.artifact.beside = .missing then 0 else 1)

/-- Does a step. -/
def step (s : Session) : Step → Outcome × Session
  | .get key => (.value (s.store.get? key), s)
  | .has key => (.truth (s.store.get? key).isSome, s)
  | .set key value => s.changeStore (s.store.set key value)
  | .remove key => s.changeStore (s.store.remove key)
  | .settingsText => (.text s.store.fileText?, s)
  | .setFailing failing => (.done, s.withStore (s.store.setFailing failing))
  | .reopen => s.reopen
  | .flag f => (.flag (f.isOn s.store) (f.isStored s.store), s)
  | .setFlag f enabled => s.changeStore (f.set enabled s.store)
  | .toggleFlag f =>
    match f.toggle s.store with
    | (.ok enabled, store) => (.truth enabled, s.withStore store)
    | (.error e, store) => (.storeFault e, s.withStore store)
  | .resetFlag f => s.changeStore (f.reset s.store)
  | .features => (.features (.ofStore s.store), s)
  | .allow host => s.changeSafelist (s.safelist.allow host)
  | .disallow host => s.changeSafelist (s.safelist.disallow host)
  | .contains host => (.truth (s.safelist.contains host), s)
  | .exempts site => (.truth (s.safelist.exempts site), s)
  | .sites => (.sites s.safelist.sites, s)
  | .registrable host => (.site (s.safelist.resolver.registrable host), s)
  | .install domains =>
    let (first, index) := s.index.install domains
    (.truth first, { s with index := index })
  | .load domains =>
    let index := match domains with
      | some domains => (s.index.install domains).2
      | none => s.index
    (.truth index.isReady, { s with index := index })
  | .index => (.index s.index.isReady s.index.size, s)
  | .indexContains domain => (.truth (s.index.contains domain), s)
  | .blocks request page => (.truth (Verdict.blocks s.index s.safelist request page), s)
  | .record request page =>
    let (blocked, log) := Verdict.record s.index s.safelist request page s.page
    (.truth blocked, { s with page := log })
  | .recordHost host =>
    let log := s.page.record host
    (.count log.hosts.length, { s with page := log })
  | .page => (.page s.page.hosts, s)
  | .resetPage => (.done, { s with page := {} })
  | .summary => (.summary (s.page.summary s.safelist.resolver), s)
  | .rememberPage url =>
    let pages := s.pages.remember url s.page
    (.pages pages.pages.length, { s with pages := pages })
  | .forgetPage url =>
    let pages := s.pages.forget url
    (.pages pages.pages.length, { s with pages := pages })
  | .recallPage url =>
    let log := s.pages.recordOf url
    (.recalled log.hosts, { s with page := log })
  | .setList text =>
    (.done, { s with list := ⟨text.elim .missing .text, none⟩ })
  | .compile =>
    match s.desk.compile? with
    | .ok c => (.compilation c, s)
    | .error e => (.listFault e, s)
  | .compileOrEmpty => (.anyCompilation s.desk.compile, s)
  | .regenerate times =>
    let s := s.regenerate times
    (.report s.report, s)
  | .report => (.report s.report, s)
  | .artifact =>
    match s.artifact.content with
    | .text content => (.artifact true (some content), s)
    | _ => (.artifact false none, s)
  | .blockArtifact b => (.done, s.blockArtifact b)
  | .artifactFiles => (.count s.artifactFiles, s)

end Session

end TrackerGuard
