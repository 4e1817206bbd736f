import TrackerGuard.Coalescer.Schedule
import TrackerGuard.RuleList
import TrackerGuard.TrackerList

/-!
# Writing the rule artifact

The artifact is the document of the compiled rules.  It is written by runs of a coalescer: asking
for it while a write waits adds nothing, because a write reads what it depends on only when it runs.
A run reads the tracker list, then the safelist, then the features, and these may change between two
of its reads.  A list that cannot be loaded gives an artifact without rules.

A `Desk` holds what a run reads and writes, and a `Draft` how far the run has come; `Desk.work` is
one step of a run.  `Writer` puts a coalescer and a desk together: its events are those of the
coalescer, the steps of a run, and changes of what runs read.
-/

namespace TrackerGuard

/-- The outcome of a write. -/
structure WriteReport where
  tally : Tally
  /-- The size of the document. -/
  bytes : Nat
  /-- Whether the artifact was replaced. -/
  written : Bool
  deriving DecidableEq, Repr

/-- How far a run has come. -/
inductive Draft where
  | begun
  /-- The list has been loaded. -/
  | listed (domains : List String)
  /-- The safelist has been read, too. -/
  | exempted (domains safelist : List String)
  /-- The rules are compiled. -/
  | compiled (c : Compilation)
  /-- The artifact has been replaced, or could not be. -/
  | reported (r : WriteReport)
  /-- Nothing is left to do. -/
  | closed
  deriving Repr

/-- What runs read and write: `ψ` is the file of the tracker list, `φ` that of the artifact. -/
structure Desk (ψ φ : Type) where
  resolver : Resolver
  list : ψ
  safelist : List String
  features : Features
  artifact : φ
  /-- The outcome of the last run. -/
  report : Option WriteReport := none
  draft : Draft := .closed

namespace Desk

variable {ψ φ : Type} [TextFile ψ]

/-- The rules for what the desk holds. -/
def compile? (d : Desk ψ φ) : Except TrackerList.Fault Compilation :=
  (TrackerList.ofFile d.list).map fun domains =>
    RuleList.compile d.resolver domains d.safelist d.features

/-- The rules for what the desk holds, none if the list cannot be loaded. -/
def compile (d : Desk ψ φ) : Compilation :=
  match d.compile? with
  | .ok c => c
  | .error _ => {}

variable [TextFile φ]

/-- Replaces the artifact. -/
def store (d : Desk ψ φ) (c : Compilation) : WriteReport × φ :=
  let document := c.document
  let report (written : Bool) : WriteReport := ⟨c.tally, document.utf8ByteSize, written⟩
  match TextFile.write d.artifact document with
  | (.ok (), artifact) => (report true, artifact)
  | (.error _, artifact) => (report false, artifact)

/-- One step of a run. -/
def work (d : Desk ψ φ) : Desk ψ φ :=
  match d.draft with
  | .begun =>
    match TrackerList.ofFile d.list with
    | .ok domains => { d with draft := .listed domains }
    | .error _ => { d with draft := .compiled {} }
  | .listed domains => { d with draft := .exempted domains d.safelist }
  | .exempted domains safelist =>
    { d with draft := .compiled (RuleList.compile d.resolver domains safelist d.features) }
  | .compiled c =>
    let (report, artifact) := d.store c
    { d with artifact := artifact, draft := .reported report }
  | .reported r => { d with report := some r, draft := .closed }
  | .closed => d

/-- A run from its start to its end, while nothing else happens. -/
def workThrough (d : Desk ψ φ) : Desk ψ φ :=
  ({ d with draft := .begun }).work.work.work.work.work

end Desk

/-- A request to write the artifact; one is like the other. -/
abbrev WriteRequest := Unit

/-- A request adds nothing to one that waits. -/
def writePolicy : Coalescer.Policy WriteRequest := ⟨fun _ _ => true, Coalescer.replaced⟩

/-! ## Requests and runs in any order -/

/-- A coalescer of requests and the desk of its runs. -/
structure Writer (ψ φ : Type) where
  requests : Coalescer.State WriteRequest := {}
  desk : Desk ψ φ

namespace Writer

open Coalescer

variable {ψ φ : Type} [TextFile ψ] [TextFile φ]

/-- What can happen to a writer. -/
inductive Event (ψ : Type) where
  /-- A step of the coalescer. -/
  | queue (e : Coalescer.Event WriteRequest)
  /-- A step of the run in progress. -/
  | work
  | changeList (list : ψ)
  | changeSafelist (safelist : List String)
  | changeFeatures (features : Features)

/-- Whether the run in progress has done all of its steps. -/
def isIdle (w : Writer ψ φ) : Bool :=
  match w.desk.draft with
  | .closed => true
  | _ => false

/-- What an event does, unless it cannot happen: a run ends only when it has done all of its steps,
and begins them when it starts. -/
def step (w : Writer ψ φ) : Event ψ → Option (Writer ψ φ)
  | .queue e =>
    match e with
    | .finish _ _ =>
      if w.isIdle then
        (Coalescer.step writePolicy w.requests e).map fun s => { w with requests := s }
      else none
    | _ =>
      (Coalescer.step writePolicy w.requests e).map fun s =>
        if w.requests.runs.length < s.runs.length then
          ⟨s, { w.desk with draft := .begun }⟩
        else { w with requests := s }
  | .work => if w.isIdle then none else some { w with desk := w.desk.work }
  | .changeList list => some { w with desk := { w.desk with list := list } }
  | .changeSafelist safelist => some { w with desk := { w.desk with safelist := safelist } }
  | .changeFeatures features => some { w with desk := { w.desk with features := features } }

/-! ## Requests from one thread -/

/-- What runs do when nothing else happens meanwhile. -/
def conduct : Conduct WriteRequest (Desk ψ φ) where
  policy := writePolicy
  platform := .silent
  isHeld _ _ := false
  perform _ desk := (desk.workThrough, none)
  fails _ := false

/-- The thread that asks for writes. -/
def caller : Thread := 1

/-- Submits requests one after another. -/
def requestTimes (s : Stage WriteRequest (Desk ψ φ)) : Nat → Stage WriteRequest (Desk ψ φ)
  | 0 => s
  | n + 1 =>
    requestTimes ((s.happen conduct (.submit caller ())).settleThread conduct caller stepsPerTask) n

/-- Asks for a write a number of times and waits until all that was asked for has been done. -/
def regenerate (w : Writer ψ φ) (times : Nat) : Writer ψ φ :=
  let start : Stage WriteRequest (Desk ψ φ) := ⟨w.requests, w.desk, w.requests.runs.length⟩
  let asked := (requestTimes start times).happen conduct (.flush caller)
  let done := asked.settle conduct (stepsPerTask * (times + 1))
  ⟨done.state, done.world⟩

end Writer

end TrackerGuard
