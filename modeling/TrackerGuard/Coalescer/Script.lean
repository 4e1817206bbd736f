import TrackerGuard.Coalescer.Schedule

/-!
# Scripts

A script exercises a coalescer step by step.  Its tasks write their key and their tag into a log,
may submit one further task and may fail.  One task at a time can be held: it starts and then waits
until it is released, and meanwhile everything else has to wait or is folded.

After each step of a script the threads run until none can move.
-/

namespace TrackerGuard.Coalescer

/-- A task of a script. -/
structure Job where
  key : Int
  tag : String
  fails : Bool := false
  /-- The tasks that are submitted one by the other: this one submits the first of them. -/
  chain : List (Int × String × Bool) := []
  /-- Whether the run waits to be released. -/
  waits : Bool := false
  deriving Repr

namespace Job

/-- The task that a run submits. -/
def next? (j : Job) : Option Job :=
  match j.chain with
  | [] => none
  | (key, tag, fails) :: chain => some ⟨key, tag, fails, chain, false⟩

end Job

/-- How the tasks of a script are folded. -/
inductive Folding where
  /-- The newer takes the place of the one that waits, unless their keys are equal. -/
  | equal
  /-- The newer takes the place of the one that waits, unless its key is not greater. -/
  | notAbove
  /-- Keys are added and tags joined, unless the tags are equal. -/
  | sum
  /-- The newer always takes the place of the one that waits. -/
  | always
  deriving DecidableEq, Repr

/-- The folding of a name. -/
def Folding.ofName? (name : String) : Option Folding :=
  match name with
  | "equal" => some .equal
  | "not_above" => some .notAbove
  | "sum" => some .sum
  | "closure" => some .always
  | _ => none

/-- How submissions are folded. -/
def Folding.policy : Folding → Policy Job
  | .equal => ⟨fun newer waiting => newer.key == waiting.key, replaced⟩
  | .notAbove => ⟨fun newer waiting => newer.key ≤ waiting.key, replaced⟩
  | .sum =>
    ⟨fun newer waiting => newer.tag == waiting.tag,
      fun waiting newer =>
        { waiting with key := waiting.key + newer.key, tag := waiting.tag ++ "+" ++ newer.tag }⟩
  | .always => ⟨fun _ _ => false, replaced⟩

/-- The world of a script. -/
structure Script.World where
  /-- Whether a task is held. -/
  holds : Bool := false
  /-- What has run, the last first. -/
  log : List (Int × String) := []

/-- A step of a script. -/
inductive Script.Step where
  | hold (j : Job)
  | release
  | submit (j : Job)
  /-- Calls the expiration handler of the task with a grant. -/
  | expire (grant : Nat)
  | state
  | drop

/-- What a step shows. -/
inductive Script.Outcome where
  | observed (ran : List (Int × String)) (pending : Bool) (ended : List Nat)
  /-- The step cannot be done. -/
  | refused
  /-- The coalescer is gone. -/
  | dropped
  deriving Repr

namespace Script

/-- The thread that follows the script. -/
def caller : Thread := 1

/-- What the tasks of a script do. -/
def conduct (folding : Folding) (platform : Platform) : Conduct Job World where
  policy := folding.policy
  platform := platform
  isHeld world j := j.waits && world.holds
  perform j world := ({ world with log := (j.key, j.tag) :: world.log }, j.next?)
  fails j := j.fails

/-- A script in progress. -/
structure Progress where
  stage : Stage Job World := { world := {} }
  /-- How many tasks have been submitted by steps and by runs, at most. -/
  weight : Nat := 1

/-- Lets the threads run until none can move. -/
def Progress.settle (c : Conduct Job World) (p : Progress) : Progress :=
  { p with stage := p.stage.settle c (stepsPerTask * p.weight) }

/-- Lets an event of the script happen, and then the threads run. -/
def Progress.after (c : Conduct Job World) (p : Progress) (weight : Nat) (e : Event Job) :
    Progress :=
  let p : Progress := { p with stage := p.stage.happen c e, weight := p.weight + weight }
  p.settle c

/-- Sets whether a task is held. -/
def Progress.setHold (p : Progress) (holds : Bool) : Progress :=
  { p with stage := { p.stage with world := { p.stage.world with holds := holds } } }

/-- What is to be seen. -/
def Progress.observe (p : Progress) : Outcome :=
  .observed p.stage.world.log.reverse p.stage.state.hasPending (p.stage.state.ended.mergeSort)

/-- The task of a grant whose handler can still be called. -/
def Progress.expirable? (p : Progress) (grant : Nat) : Option Nat :=
  (p.stage.state.grants.lookup grant).filter p.stage.state.handlers.contains

/-- A thread that does nothing yet. -/
def Progress.freeThread (p : Progress) : Thread := max 2 p.stage.state.frames.length

/-- Does a step. -/
def Progress.step (c : Conduct Job World) (p : Progress) (s : Step) : Outcome × Progress :=
  if p.stage.state.closed then (.dropped, p)
  else
    match s with
    | .hold j =>
      if p.stage.world.holds || c.platform == .hasty then (.refused, p)
      else
        let p := (p.setHold true).after c (j.chain.length + 1)
          (.submit caller { j with waits := true })
        (p.observe, p)
    | .release =>
      let p := (p.setHold false).settle c
      (p.observe, p)
    | .submit j =>
      let p := p.after c (j.chain.length + 1) (.submit caller j)
      (p.observe, p)
    | .expire grant =>
      match p.expirable? grant with
      | some entry =>
        let p := p.after c 1 (.expire p.freeThread entry)
        (p.observe, p)
      | none => (p.observe, p)
    | .state => (p.observe, p)
    | .drop =>
      let p := ((p.setHold false).settle c).after c 1 (.close caller)
      (p.observe, p)

/-- Does steps, of which those that are no steps are refused. -/
def run (c : Conduct Job World) (p : Progress) : List (Option Step) → List Outcome × Progress
  | [] => ([], p)
  | s :: rest =>
    let (outcome, p) :=
      match s with
      | some s => p.step c s
      | none => (if p.stage.state.closed then .dropped else .refused, p)
    let (outcomes, p) := run c p rest
    (outcome :: outcomes, p)

/-- What has run when a held task has been released in the end and nothing is left to do. -/
def finalLog (c : Conduct Job World) (p : Progress) : List (Int × String) :=
  ((p.setHold false).settle c).stage.world.log.reverse

end Script

end TrackerGuard.Coalescer
