/-!
# Coalescing work

A coalescer runs tasks one after another on a worker of its own.  While a submitted task waits for
its turn, newer submissions are folded into it, so that a burst of submissions costs one run.  Once
a task has started, the next submission is registered as a task of its own.

For each registered task the platform is asked for time to run in the background.  It may hand out a
grant, which is given back after the run, and it may call the task's expiration handler when the
time is up: the handler runs the task on the spot, unless somebody did already.  Runs exclude each
other by a lock.  A thread that is running a task and is asked to run another one leaves it to the
worker.

A worker may fail to start.  Then there is no queue, and a thread that registers a task runs it
itself before its submission returns.  A task that is submitted by a running one is left all the
same, and nobody serves it.

This module holds the state of a coalescer between two steps of its threads: the registered tasks in
the order of their registration, the worker's queue, the owner of the lock, and what each thread is
in the middle of.  The state also remembers what has happened, as far as somebody outside could have
seen it.
-/

namespace TrackerGuard.Coalescer

/-- How submissions are folded. -/
structure Policy (α : Type) where
  /-- Whether a newer submission adds nothing to the one that waits. -/
  isDuplicate : (newer waiting : α) → Bool
  /-- What waits after a newer submission has been folded in. -/
  merge : (waiting newer : α) → α

/-- What waits after a newer submission. -/
def Policy.fold {α : Type} (p : Policy α) (waiting newer : α) : α :=
  if p.isDuplicate newer waiting then waiting else p.merge waiting newer

/-- A newer submission takes the place of the one that waits. -/
def replaced {α : Type} (_waiting newer : α) : α := newer

/-- A registered task. -/
structure Entry (α : Type) where
  /-- What is to be run, until the run starts. -/
  waiting : Option α
  /-- The grant of the task, once it is known and until it is given back. -/
  grant : Option Nat := none
  /-- Whether the run is over. -/
  finished : Bool := false
  deriving Repr

/-- Threads are numbered; the worker has the number zero. -/
abbrev Thread := Nat

/-- The thread that serves the queue. -/
def worker : Thread := 0

/-- What the worker is asked for. -/
inductive Message where
  /-- To run the task with a number. -/
  | run (entry : Nat)
  /-- To acknowledge that everything before has been served. -/
  | flush (ticket : Nat)
  deriving DecidableEq, Repr

/-- What a thread is in the middle of. -/
inductive Frame where
  /-- It registered a task and has not asked the platform for time yet. -/
  | registered (entry : Nat)
  /-- It has asked, and waits for the answer. -/
  | asking (entry : Nat)
  /-- It was handed a grant and has not told the task yet. -/
  | granted (entry grant : Nat)
  /-- It wants the lock in order to run a task. -/
  | acquiring (entry : Nat)
  /-- It has the lock and has not looked at the task yet. -/
  | taking (entry : Nat)
  /-- It runs a task. -/
  | running (entry : Nat)
  /-- It has run a task and has not marked it finished yet. -/
  | settling (entry : Nat)
  /-- It has a grant to give back. -/
  | ending (grant : Nat)
  /-- It has the lock to release. -/
  | releasing
  /-- It waits for the acknowledgement with a number. -/
  | awaiting (ticket : Nat)
  /-- It waits for the worker to serve what is left. -/
  | joining
  /-- It returns from a submission whose task it was to run itself. -/
  | returning
  deriving DecidableEq, Repr

/-- What every thread is in the middle of, innermost first. -/
abbrev Frames := List (List Frame)

namespace Frames

/-- What a thread is in the middle of. -/
def of (frames : Frames) (t : Thread) : List Frame := frames.getD t []

/-- Replaces what a thread is in the middle of. -/
def put : Frames → Thread → List Frame → Frames
  | [], 0, fs => [fs]
  | [], t + 1, fs => [] :: put [] t fs
  | _ :: rest, 0, fs => fs :: rest
  | f :: rest, t + 1, fs => f :: put rest t fs

theorem of_put (frames : Frames) (t u : Thread) (fs : List Frame) :
    (frames.put t fs).of u = if u = t then fs else frames.of u := by
  fun_induction put frames t fs generalizing u with
  | case1 => cases u <;> simp [of]
  | case2 fs t ih =>
    cases u with
    | zero => simp [of]
    | succ u => simpa [of] using ih u
  | case3 => cases u <;> simp [of]
  | case4 fs f rest t ih =>
    cases u with
    | zero => simp [of]
    | succ u => simpa [of] using ih u

end Frames

/-- A coalescer between two steps. -/
structure State (α : Type) where
  /-- Whether the worker has started. -/
  hasWorker : Bool := true
  /-- The registered tasks, in the order of registration. -/
  entries : List (Entry α) := []
  /-- What the worker is asked for next. -/
  queue : List Message := []
  /-- The thread that has the lock. -/
  owner : Option Thread := none
  frames : Frames := []
  /-- Tasks whose expiration handler can still be called. -/
  handlers : List Nat := []
  /-- How many acknowledgements have been asked for. -/
  tickets : Nat := 0
  /-- The acknowledgements that were given. -/
  acknowledged : List Nat := []
  /-- Whether nothing can be submitted any more. -/
  closed : Bool := false
  /-- The submissions so far, each with the task that it went into. -/
  submissions : List (α × Nat) := []
  /-- The runs so far in the order in which they started, each with what was run. -/
  runs : List (Nat × α) := []
  /-- The tasks that a thread was asked to run and left, because it was running one. -/
  left : List Nat := []
  /-- The tasks for which the platform was asked for time. -/
  asked : List Nat := []
  /-- The grants that were handed out, each with its task. -/
  grants : List (Nat × Nat) := []
  /-- The grants that were given back. -/
  ended : List Nat := []
  deriving Repr

namespace State

variable {α : Type}

/-- Whether a registered task waits for its run. -/
def hasPending (s : State α) : Bool := s.entries.getLast?.any (·.waiting.isSome)

/-- What a thread is in the middle of. -/
def stack (s : State α) (t : Thread) : List Frame := s.frames.of t

/-- Replaces what a thread is in the middle of. -/
def withStack (s : State α) (t : Thread) (fs : List Frame) : State α :=
  { s with frames := s.frames.put t fs }

/-- Whether the thread may call the coalescer: it does something else, or runs a task. -/
def mayCall (s : State α) (t : Thread) : Bool :=
  match s.stack t with
  | [] => t != worker
  | .running _ :: _ => true
  | _ => false

/-- Whether the thread may call an expiration handler; the platform may also do so while it is
asked or given back a grant. -/
def mayExpire (s : State α) (t : Thread) : Bool :=
  match s.stack t with
  | .asking _ :: _ | .ending _ :: _ => true
  | _ => s.mayCall t

/-- Whether there is a worker that has served everything and does nothing. -/
def isDrained (s : State α) : Bool :=
  s.hasWorker && s.queue.isEmpty && (s.stack worker).isEmpty

/-- Whether no task waits for its run and nobody has the lock; without a worker, there is no other
queue than the task that waits. -/
def isAtRest (s : State α) : Bool := !s.hasPending && s.owner.isNone

/-- Whether nobody is in the middle of anything and nothing is queued. -/
def isQuiet (s : State α) : Bool := s.queue.isEmpty && s.frames.all (·.isEmpty)

end State

end TrackerGuard.Coalescer
