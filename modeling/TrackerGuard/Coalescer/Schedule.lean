import TrackerGuard.Coalescer.Step

/-!
# Running a coalescer

A schedule in which the threads of a coalescer take turns: `Stage.advance` lets a thread do what its
innermost frame says, and `Stage.settle` goes on until no thread can move.  Threads that called the
coalescer go before the worker, the latest first.

What the tasks do is given by a `Conduct`.  A run may be held up by the world around it, changes
that world, and may submit one more task.  The platform belongs to the conduct, too.
-/

namespace TrackerGuard.Coalescer

/-- How the platform answers when it is asked for time. -/
inductive Platform where
  /-- It grants nothing, and no handler is ever called. -/
  | silent
  /-- It grants time and calls handlers when it is told to. -/
  | patient
  /-- It grants time, but calls the handler before it answers. -/
  | hasty
  deriving DecidableEq, Repr

/-- What tasks and the platform do; `ω` is the world that tasks change. -/
structure Conduct (α ω : Type) where
  policy : Policy α
  platform : Platform
  /-- Whether a run cannot go on yet. -/
  isHeld : ω → α → Bool
  /-- What a run does, and what it submits. -/
  perform : α → ω → ω × Option α
  /-- Whether a run fails after what it does. -/
  fails : α → Bool

/-- A coalescer within a world. -/
structure Stage (α ω : Type) where
  state : State α := {}
  world : ω
  /-- How many runs have done their work. -/
  performed : Nat := 0

namespace Stage

variable {α ω : Type}

/-- Lets an event happen, if it can. -/
def happen? (c : Conduct α ω) (s : Stage α ω) (e : Event α) : Option (Stage α ω) :=
  (step c.policy s.state e).map fun state => { s with state := state }

/-- Lets an event happen, or leaves all as it is. -/
def happen (c : Conduct α ω) (s : Stage α ω) (e : Event α) : Stage α ω :=
  (s.happen? c e).getD s

/-- Lets the run that has started last do its work. -/
def perform? (c : Conduct α ω) (s : Stage α ω) (t : Thread) : Option (Stage α ω) :=
  match s.state.runs.getLast? with
  | none => none
  | some (_, x) =>
    if c.isHeld s.world x then none
    else
      let (world, next) := c.perform x s.world
      let s := { s with world := world, performed := s.performed + 1 }
      match next with
      | none => some s
      | some y => s.happen? c (.submit t y)

/-- The number of the next grant. -/
def nextGrant (s : Stage α ω) : Nat := s.state.grants.length + 1

/-- Lets a thread make one step. -/
def advance? (c : Conduct α ω) (s : Stage α ω) (t : Thread) : Option (Stage α ω) :=
  match s.state.stack t with
  | [] => if t = worker then s.happen? c .receive else none
  | .registered _ :: _ => s.happen? c (.ask t)
  | .asking e :: _ =>
    match c.platform with
    | .silent => s.happen? c (.answer t none)
    | .patient => s.happen? c (.answer t (some s.nextGrant))
    | .hasty =>
      if s.state.handlers.contains e then s.happen? c (.expire t e)
      else s.happen? c (.answer t (some s.nextGrant))
  | .granted _ _ :: _ => s.happen? c (.attach t)
  | .acquiring _ :: _ => s.happen? c (.acquire t)
  | .taking _ :: _ => s.happen? c (.take t)
  | .running _ :: _ =>
    if s.performed < s.state.runs.length then s.perform? c t
    else s.happen? c (.finish t (s.state.runs.getLast?.any fun (_, x) => c.fails x))
  | .settling _ :: _ => s.happen? c (.settle t)
  | .ending _ :: _ => s.happen? c (.giveBack t)
  | .releasing :: _ => s.happen? c (.release t)
  | .awaiting _ :: _ => s.happen? c (.resume t)
  | .joining :: _ => s.happen? c (.resume t)
  | .returning :: _ => s.happen? c (.resume t)

/-- Lets the first thread make a step that can, of those below a number, from the highest down. -/
def advanceBelow? (c : Conduct α ω) (s : Stage α ω) : Nat → Option (Stage α ω)
  | 0 => none
  | t + 1 =>
    match s.advance? c t with
    | some s => some s
    | none => advanceBelow? c s t

/-- Lets the threads make steps until none can, or the bound is reached. -/
def settle (c : Conduct α ω) : (bound : Nat) → Stage α ω → Stage α ω
  | 0, s => s
  | bound + 1, s =>
    match s.advanceBelow? c (s.state.frames.length + 1) with
    | some s => settle c bound s
    | none => s

/-- Lets one thread make steps until it cannot, or the bound is reached. -/
def settleThread (c : Conduct α ω) (t : Thread) : (bound : Nat) → Stage α ω → Stage α ω
  | 0, s => s
  | bound + 1, s =>
    match s.advance? c t with
    | some s => settleThread c t bound s
    | none => s

end Stage

/-- More steps than a task can cause, from its submission to the return of its grant. -/
def stepsPerTask : Nat := 32

end TrackerGuard.Coalescer
