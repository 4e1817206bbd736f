import TrackerGuard.Coalescer.Basic

/-!
# The steps of a coalescer

Between two steps of one thread any number of steps of the others may happen.  What is done under
one lock is one step.  `step` says what an event does to the state, or that it cannot happen: a
thread does only what its innermost frame says, and nobody gets the lock while another has it.

Without a worker nobody is told of a task that is registered: its thread goes on to run it when the
platform has been asked.  Flushing and closing wait for nothing then.

`Reachable` holds of the states that some history leads to, from a start with a worker or without.
-/

namespace TrackerGuard.Coalescer

/-- A step of a thread. -/
inductive Event (α : Type) where
  /-- A thread submits a task. -/
  | submit (t : Thread) (x : α)
  /-- The platform is asked for time. -/
  | ask (t : Thread)
  /-- The platform answers, with a grant or without. -/
  | answer (t : Thread) (grant : Option Nat)
  /-- The task is told its grant. -/
  | attach (t : Thread)
  /-- The expiration handler of a task is called on a thread. -/
  | expire (t : Thread) (entry : Nat)
  /-- The worker takes the next message off its queue. -/
  | receive
  /-- A thread takes the lock, or finds that it runs a task already. -/
  | acquire (t : Thread)
  /-- A thread looks at the task that it is to run. -/
  | take (t : Thread)
  /-- A run comes to its end, by itself or by a failure. -/
  | finish (t : Thread) (failed : Bool)
  /-- The task is marked finished. -/
  | settle (t : Thread)
  /-- A grant is given back. -/
  | giveBack (t : Thread)
  /-- The lock is released. -/
  | release (t : Thread)
  /-- A thread asks for an acknowledgement, if there is a worker to give it. -/
  | flush (t : Thread)
  /-- A thread goes on that waited, or returns from a submission. -/
  | resume (t : Thread)
  /-- The coalescer is given up; the thread waits for the worker, if there is one. -/
  | close (t : Thread)
  deriving Repr

namespace State

variable {α : Type}

/-- Folds a submission into the task that waits, or registers it as a task of its own.  The worker
is told of the new task; without a worker, the thread is to run it itself. -/
def submit (p : Policy α) (s : State α) (t : Thread) (x : α) : State α :=
  let last := s.entries.length - 1
  match s.entries.getLast?.bind (·.waiting) with
  | some waiting =>
    { s with
      entries := s.entries.modify last fun e => { e with waiting := some (p.fold waiting x) }
      submissions := s.submissions ++ [(x, last)] }
  | none =>
    let entry := s.entries.length
    if s.hasWorker then
      { s.withStack t (.registered entry :: s.stack t) with
        entries := s.entries ++ [{ waiting := some x }]
        queue := s.queue ++ [.run entry]
        submissions := s.submissions ++ [(x, entry)] }
    else
      { s.withStack t (.registered entry :: .acquiring entry :: .returning :: s.stack t) with
        entries := s.entries ++ [{ waiting := some x }]
        submissions := s.submissions ++ [(x, entry)] }

/-- Takes what waits in a task, if it has not been taken. -/
def take (s : State α) (t : Thread) (entry : Nat) (rest : List Frame) : State α :=
  match s.entries[entry]?.bind (·.waiting) with
  | none => s.withStack t (.releasing :: rest)
  | some x =>
    { s.withStack t (.running entry :: rest) with
      entries := s.entries.modify entry fun e => { e with waiting := none }
      runs := s.runs ++ [(entry, x)] }

/-- Tells a task its grant, or keeps it to be given back when the run is over already. -/
def attach (s : State α) (t : Thread) (entry grant : Nat) (rest : List Frame) : State α :=
  if s.entries[entry]?.any (·.finished) then s.withStack t (.ending grant :: rest)
  else
    { s.withStack t rest with
      entries := s.entries.modify entry fun e => { e with grant := some grant } }

/-- Marks a task finished and takes its grant out of it. -/
def settle (s : State α) (t : Thread) (entry : Nat) (rest : List Frame) : State α :=
  let after := match s.entries[entry]?.bind (·.grant) with
    | some grant => .ending grant :: .releasing :: rest
    | none => .releasing :: rest
  { s.withStack t after with
    entries := s.entries.modify entry fun e => { e with grant := none, finished := true } }

/-- Whether no thread is within a call, so that the coalescer can be given up. -/
def isUnused (s : State α) : Bool :=
  s.frames.all fun fs => fs.all fun f =>
    match f with
    | .registered _ | .asking _ | .granted _ _ | .awaiting _ | .joining | .returning => false
    | _ => true

end State

/-- What an event does to the state, unless it cannot happen. -/
def step {α : Type} (p : Policy α) (s : State α) : Event α → Option (State α)
  | .submit t x => if s.mayCall t && !s.closed then some (s.submit p t x) else none
  | .ask t =>
    match s.stack t with
    | .registered e :: rest =>
      some
        { s.withStack t (.asking e :: rest) with
          handlers := e :: s.handlers
          asked := s.asked ++ [e] }
    | _ => none
  | .answer t grant =>
    match s.stack t, grant with
    | .asking _ :: rest, none => some (s.withStack t rest)
    | .asking e :: rest, some g =>
      if s.grants.any (·.1 == g) then none
      else some { s.withStack t (.granted e g :: rest) with grants := s.grants ++ [(g, e)] }
    | _, _ => none
  | .attach t =>
    match s.stack t with
    | .granted e g :: rest => some (s.attach t e g rest)
    | _ => none
  | .expire t e =>
    if s.mayExpire t && s.handlers.contains e then
      some { s.withStack t (.acquiring e :: s.stack t) with handlers := s.handlers.erase e }
    else none
  | .receive =>
    match s.stack worker, s.queue with
    | [], .run e :: queue => some { s.withStack worker [.acquiring e] with queue := queue }
    | [], .flush n :: queue =>
      some { s with queue := queue, acknowledged := n :: s.acknowledged }
    | _, _ => none
  | .acquire t =>
    match s.stack t with
    | .acquiring e :: rest =>
      match s.owner with
      | none => some { s.withStack t (.taking e :: rest) with owner := some t }
      | some u =>
        if u = t then some { s.withStack t rest with left := s.left ++ [e] } else none
    | _ => none
  | .take t =>
    match s.stack t with
    | .taking e :: rest => some (s.take t e rest)
    | _ => none
  | .finish t _ =>
    match s.stack t with
    | .running e :: rest => some (s.withStack t (.settling e :: rest))
    | _ => none
  | .settle t =>
    match s.stack t with
    | .settling e :: rest => some (s.settle t e rest)
    | _ => none
  | .giveBack t =>
    match s.stack t with
    | .ending g :: rest => some { s.withStack t rest with ended := s.ended ++ [g] }
    | _ => none
  | .release t =>
    match s.stack t with
    | .releasing :: rest => some { s.withStack t rest with owner := none }
    | _ => none
  | .flush t =>
    if s.mayCall t && !s.closed then
      if s.hasWorker then
        some
          { s.withStack t (.awaiting s.tickets :: s.stack t) with
            queue := s.queue ++ [.flush s.tickets]
            tickets := s.tickets + 1 }
      else some s
    else none
  | .resume t =>
    match s.stack t with
    | .awaiting n :: rest =>
      if s.acknowledged.contains n then some (s.withStack t rest) else none
    | .joining :: rest => if s.isDrained then some (s.withStack t rest) else none
    | .returning :: rest => some (s.withStack t rest)
    | _ => none
  | .close t =>
    if s.mayCall t && !s.closed && s.isUnused then
      if s.hasWorker then some { s.withStack t (.joining :: s.stack t) with closed := true }
      else some { s with closed := true }
    else none

/-- The states that some history leads to, when the worker has started or when it has not. -/
inductive Reachable {α : Type} (p : Policy α) (hasWorker : Bool) : State α → Prop where
  | start : Reachable p hasWorker { hasWorker := hasWorker }
  | next {s s' : State α} (e : Event α) :
      Reachable p hasWorker s → step p s e = some s' → Reachable p hasWorker s'

end TrackerGuard.Coalescer
