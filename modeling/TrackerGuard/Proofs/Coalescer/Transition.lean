import Mathlib
import TrackerGuard.Coalescer.Step

/-!
# What a step of a coalescer can do

`Coalescer.step` is a function on events that asks what is on top of a thread's stack, who has the
lock and what waits.  `Transition` lists the outcomes: one constructor for each thing that can
happen, with what must hold before it and the state after it.  `Transition.of_step` shows that every
step is one of them, and what steps preserve is proved by cases on it, without opening `step` again.

A step touches the stack of one thread at most, and there only the top.  `stack_put` gives the
stacks after it.  `Follows` is any number of steps.
-/

namespace TrackerGuard.Coalescer

variable {α : Type}

/-- What an event does, case by case. -/
inductive Transition (p : Policy α) (s : State α) : Event α → State α → Prop where
  /-- A submission is folded into the task that waits. -/
  | fold {t : Thread} {x waiting : α} (may : s.mayCall t) (isOpen : s.closed = false)
      (last : s.entries.getLast?.bind (·.waiting) = some waiting) :
      Transition p s (.submit t x)
        { s with
          entries := s.entries.modify (s.entries.length - 1) fun e =>
            { e with waiting := some (p.fold waiting x) }
          submissions := s.submissions ++ [(x, s.entries.length - 1)] }
  /-- A submission becomes a task of its own, and the worker is told. -/
  | register {t : Thread} {x : α} (may : s.mayCall t) (isOpen : s.closed = false)
      (last : s.entries.getLast?.bind (·.waiting) = none) (served : s.hasWorker) :
      Transition p s (.submit t x)
        { s.withStack t (.registered s.entries.length :: s.stack t) with
          entries := s.entries ++ [{ waiting := some x }]
          queue := s.queue ++ [.run s.entries.length]
          submissions := s.submissions ++ [(x, s.entries.length)] }
  /-- A submission becomes a task of its own, and its thread is to run it. -/
  | registerAlone {t : Thread} {x : α} (may : s.mayCall t) (isOpen : s.closed = false)
      (last : s.entries.getLast?.bind (·.waiting) = none) (alone : s.hasWorker = false) :
      Transition p s (.submit t x)
        { s.withStack t (.registered s.entries.length :: .acquiring s.entries.length ::
            .returning :: s.stack t) with
          entries := s.entries ++ [{ waiting := some x }]
          submissions := s.submissions ++ [(x, s.entries.length)] }
  | ask {t : Thread} {i : Nat} {rest : List Frame} (top : s.stack t = .registered i :: rest) :
      Transition p s (.ask t)
        { s.withStack t (.asking i :: rest) with
          handlers := i :: s.handlers
          asked := s.asked ++ [i] }
  | refuse {t : Thread} {i : Nat} {rest : List Frame} (top : s.stack t = .asking i :: rest) :
      Transition p s (.answer t none) (s.withStack t rest)
  | grant {t : Thread} {i g : Nat} {rest : List Frame} (top : s.stack t = .asking i :: rest)
      (fresh : s.grants.any (·.1 == g) = false) :
      Transition p s (.answer t (some g))
        { s.withStack t (.granted i g :: rest) with grants := s.grants ++ [(g, i)] }
  /-- A grant comes after the run, and is kept to be given back. -/
  | attachLate {t : Thread} {i g : Nat} {rest : List Frame}
      (top : s.stack t = .granted i g :: rest) (isOver : s.entries[i]?.any (·.finished)) :
      Transition p s (.attach t) (s.withStack t (.ending g :: rest))
  | attach {t : Thread} {i g : Nat} {rest : List Frame} (top : s.stack t = .granted i g :: rest)
      (isOver : s.entries[i]?.any (·.finished) = false) :
      Transition p s (.attach t)
        { s.withStack t rest with
          entries := s.entries.modify i fun e => { e with grant := some g } }
  | expire {t : Thread} {i : Nat} (may : s.mayExpire t) (live : i ∈ s.handlers) :
      Transition p s (.expire t i)
        { s.withStack t (.acquiring i :: s.stack t) with handlers := s.handlers.erase i }
  | receiveRun {i : Nat} {queue : List Message} (idle : s.stack worker = [])
      (first : s.queue = .run i :: queue) :
      Transition p s .receive { s.withStack worker [.acquiring i] with queue := queue }
  | receiveFlush {n : Nat} {queue : List Message} (idle : s.stack worker = [])
      (first : s.queue = .flush n :: queue) :
      Transition p s .receive { s with queue := queue, acknowledged := n :: s.acknowledged }
  | acquire {t : Thread} {i : Nat} {rest : List Frame} (top : s.stack t = .acquiring i :: rest)
      (free : s.owner = none) :
      Transition p s (.acquire t) { s.withStack t (.taking i :: rest) with owner := some t }
  /-- The thread runs a task already and leaves this one to the worker. -/
  | leave {t : Thread} {i : Nat} {rest : List Frame} (top : s.stack t = .acquiring i :: rest)
      (own : s.owner = some t) :
      Transition p s (.acquire t) { s.withStack t rest with left := s.left ++ [i] }
  /-- A run starts. -/
  | start {t : Thread} {i : Nat} {x : α} {rest : List Frame} (top : s.stack t = .taking i :: rest)
      (waits : s.entries[i]?.bind (·.waiting) = some x) :
      Transition p s (.take t)
        { s.withStack t (.running i :: rest) with
          entries := s.entries.modify i fun e => { e with waiting := none }
          runs := s.runs ++ [(i, x)] }
  /-- Somebody else has taken the task before. -/
  | miss {t : Thread} {i : Nat} {rest : List Frame} (top : s.stack t = .taking i :: rest)
      (gone : s.entries[i]?.bind (·.waiting) = none) :
      Transition p s (.take t) (s.withStack t (.releasing :: rest))
  | finish {t : Thread} {i : Nat} {failed : Bool} {rest : List Frame}
      (top : s.stack t = .running i :: rest) :
      Transition p s (.finish t failed) (s.withStack t (.settling i :: rest))
  | settleGranted {t : Thread} {i g : Nat} {rest : List Frame}
      (top : s.stack t = .settling i :: rest) (has : s.entries[i]?.bind (·.grant) = some g) :
      Transition p s (.settle t)
        { s.withStack t (.ending g :: .releasing :: rest) with
          entries := s.entries.modify i fun e => { e with grant := none, finished := true } }
  | settle {t : Thread} {i : Nat} {rest : List Frame} (top : s.stack t = .settling i :: rest)
      (has : s.entries[i]?.bind (·.grant) = none) :
      Transition p s (.settle t)
        { s.withStack t (.releasing :: rest) with
          entries := s.entries.modify i fun e => { e with grant := none, finished := true } }
  | giveBack {t : Thread} {g : Nat} {rest : List Frame} (top : s.stack t = .ending g :: rest) :
      Transition p s (.giveBack t) { s.withStack t rest with ended := s.ended ++ [g] }
  | release {t : Thread} {rest : List Frame} (top : s.stack t = .releasing :: rest) :
      Transition p s (.release t) { s.withStack t rest with owner := none }
  | flush {t : Thread} (may : s.mayCall t) (isOpen : s.closed = false) (served : s.hasWorker) :
      Transition p s (.flush t)
        { s.withStack t (.awaiting s.tickets :: s.stack t) with
          queue := s.queue ++ [.flush s.tickets]
          tickets := s.tickets + 1 }
  /-- There is no worker to wait for. -/
  | flushAlone {t : Thread} (may : s.mayCall t) (isOpen : s.closed = false)
      (alone : s.hasWorker = false) :
      Transition p s (.flush t) s
  | resume {t : Thread} {n : Nat} {rest : List Frame} (top : s.stack t = .awaiting n :: rest)
      (given : n ∈ s.acknowledged) :
      Transition p s (.resume t) (s.withStack t rest)
  | resumeJoined {t : Thread} {rest : List Frame} (top : s.stack t = .joining :: rest)
      (drained : s.isDrained) :
      Transition p s (.resume t) (s.withStack t rest)
  | returned {t : Thread} {rest : List Frame} (top : s.stack t = .returning :: rest) :
      Transition p s (.resume t) (s.withStack t rest)
  | close {t : Thread} (may : s.mayCall t) (isOpen : s.closed = false) (unused : s.isUnused)
      (served : s.hasWorker) :
      Transition p s (.close t)
        { s.withStack t (.joining :: s.stack t) with closed := true }
  /-- There is no worker to wait for. -/
  | closeAlone {t : Thread} (may : s.mayCall t) (isOpen : s.closed = false) (unused : s.isUnused)
      (alone : s.hasWorker = false) :
      Transition p s (.close t) { s with closed := true }

/-- Every step is one of the transitions. -/
theorem Transition.of_step {p : Policy α} {s s' : State α} {e : Event α}
    (h : step p s e = some s') : Transition p s e s' := by
  cases e with
  | submit t x =>
      simp only [step, Bool.and_eq_true, Bool.not_eq_true'] at h
      split at h
      next hmay =>
        obtain rfl := Option.some.inj h
        cases hlast : s.entries.getLast?.bind (·.waiting) with
        | some waiting => simpa only [State.submit, hlast] using .fold hmay.1 hmay.2 hlast
        | none =>
            simp only [State.submit, hlast]
            split
            next hserved => exact .register hmay.1 hmay.2 hlast hserved
            next halone =>
              exact .registerAlone hmay.1 hmay.2 hlast (Bool.eq_false_iff.mpr halone)
      next => cases h
  | ask t =>
      simp only [step] at h
      split at h
      next htop => exact Option.some.inj h ▸ .ask htop
      next => cases h
  | answer t g =>
      simp only [step] at h
      split at h
      next htop => exact Option.some.inj h ▸ .refuse htop
      next htop =>
        split at h
        next => cases h
        next hfresh => exact Option.some.inj h ▸ .grant htop (Bool.eq_false_iff.mpr hfresh)
      next => cases h
  | attach t =>
      simp only [step] at h
      split at h
      next htop =>
        obtain rfl := Option.some.inj h
        rw [State.attach]
        split
        next hisOver => exact .attachLate htop hisOver
        next hisOver => exact .attach htop (Bool.eq_false_iff.mpr hisOver)
      next => cases h
  | expire t i =>
      simp only [step, Bool.and_eq_true, List.contains_iff_mem] at h
      split at h
      next hmay => exact Option.some.inj h ▸ .expire hmay.1 hmay.2
      next => cases h
  | receive =>
      simp only [step] at h
      split at h
      next hidle hfirst => exact Option.some.inj h ▸ .receiveRun hidle hfirst
      next hidle hfirst => exact Option.some.inj h ▸ .receiveFlush hidle hfirst
      next => cases h
  | acquire t =>
      simp only [step] at h
      split at h
      next htop =>
        split at h
        next hfree => exact Option.some.inj h ▸ .acquire htop hfree
        next howner =>
          split at h
          next hown => exact Option.some.inj h ▸ .leave htop (hown ▸ howner)
          next => cases h
      next => cases h
  | take t =>
      simp only [step] at h
      split at h
      next i rest htop =>
        obtain rfl := Option.some.inj h
        cases hwaits : s.entries[i]?.bind (·.waiting) with
        | some x => simpa only [State.take, hwaits] using .start htop hwaits
        | none => simpa only [State.take, hwaits] using .miss htop hwaits
      next => cases h
  | finish t failed =>
      simp only [step] at h
      split at h
      next htop => exact Option.some.inj h ▸ .finish htop
      next => cases h
  | settle t =>
      simp only [step] at h
      split at h
      next i rest htop =>
        obtain rfl := Option.some.inj h
        cases hhas : s.entries[i]?.bind (·.grant) with
        | some g => simpa only [State.settle, hhas] using .settleGranted htop hhas
        | none => simpa only [State.settle, hhas] using .settle htop hhas
      next => cases h
  | giveBack t =>
      simp only [step] at h
      split at h
      next htop => exact Option.some.inj h ▸ .giveBack htop
      next => cases h
  | release t =>
      simp only [step] at h
      split at h
      next htop => exact Option.some.inj h ▸ .release htop
      next => cases h
  | flush t =>
      simp only [step, Bool.and_eq_true, Bool.not_eq_true'] at h
      split at h
      next hmay =>
        split at h
        next hserved => exact Option.some.inj h ▸ .flush hmay.1 hmay.2 hserved
        next halone =>
          exact Option.some.inj h ▸ .flushAlone hmay.1 hmay.2 (Bool.eq_false_iff.mpr halone)
      next => cases h
  | resume t =>
      simp only [step, List.contains_iff_mem] at h
      split at h
      next htop =>
        split at h
        next hgiven => exact Option.some.inj h ▸ .resume htop hgiven
        next => cases h
      next htop =>
        split at h
        next hdrained => exact Option.some.inj h ▸ .resumeJoined htop hdrained
        next => cases h
      next htop => exact Option.some.inj h ▸ .returned htop
      next => cases h
  | close t =>
      simp only [step, Bool.and_eq_true, Bool.not_eq_true'] at h
      split at h
      next hmay =>
        obtain ⟨⟨hcall, hopen⟩, hunused⟩ := hmay
        split at h
        next hserved => exact Option.some.inj h ▸ .close hcall hopen hunused hserved
        next halone =>
          exact Option.some.inj h ▸ .closeAlone hcall hopen hunused (Bool.eq_false_iff.mpr halone)
      next => cases h

/-! ## Stacks after a step -/

lemma stack_mem_or_eq_nil (s : State α) (t : Thread) : s.stack t ∈ s.frames ∨ s.stack t = [] := by
  rw [State.stack, Frames.of, List.getD_eq_getElem?_getD]
  cases hfs : s.frames[t]? with
  | none => exact .inr rfl
  | some fs => exact .inl (List.mem_of_getElem? hfs)

/-- The stacks after the stack of one thread was replaced. -/
lemma stack_put {s s' : State α} {t : Thread} {fs : List Frame}
    (h : s'.frames = s.frames.put t fs) (u : Thread) :
    s'.stack u = if u = t then fs else s.stack u := by
  rw [State.stack, h, Frames.of_put]
  rfl

/-- What is on a stack stays there, unless it is the top that goes. -/
lemma mem_stack_put {s s' : State α} {t u : Thread} {fs : List Frame} {f : Frame}
    (h : s'.frames = s.frames.put t fs) (hkeep : f ∈ s.stack t → f ∈ fs) (hf : f ∈ s.stack u) :
    f ∈ s'.stack u := by
  rw [stack_put h]
  split
  next hu => exact hkeep (hu ▸ hf)
  next => exact hf

/-- A run goes on until it comes to its end. -/
lemma Transition.running_mem {p : Policy α} {s s' : State α} {e : Event α}
    (h : Transition p s e s') {t : Thread} {i : Nat} (hrunning : .running i ∈ s.stack t)
    (hgoes : ∀ u failed, e ≠ .finish u failed) : .running i ∈ s'.stack t := by
  cases h with
  | fold | receiveFlush | flushAlone | closeAlone => exact hrunning
  | finish => exact absurd rfl (hgoes _ _)
  | receiveRun idle => exact mem_stack_put rfl (by simp [idle]) hrunning
  | register | expire | flush | close =>
      exact mem_stack_put rfl (List.mem_cons_of_mem _) hrunning
  | registerAlone => exact mem_stack_put rfl (by simp +contextual) hrunning
  | ask top | refuse top | grant top | attachLate top | attach top | acquire top | leave top
  | start top | miss top | settleGranted top | settle top | giveBack top | release top
  | resume top | resumeJoined top | returned top =>
      exact mem_stack_put rfl (by simp +contextual [top]) hrunning

/-! ## Any number of steps -/

/-- Some history leads from one state to the other. -/
def Follows (p : Policy α) : State α → State α → Prop :=
  Relation.ReflTransGen fun s s' => ∃ e, step p s e = some s'

lemma Reachable.of_follows {p : Policy α} {hasWorker : Bool} {s s' : State α}
    (h : Reachable p hasWorker s) (hs : Follows p s s') : Reachable p hasWorker s' := by
  induction hs with
  | refl => exact h
  | tail _ hstep ih =>
      obtain ⟨e, he⟩ := hstep
      exact .next e ih he

/-- A list of events is a history. -/
lemma follows_of_foldlM {p : Policy α} (es : List (Event α)) {s s' : State α}
    (hs : es.foldlM (step p) s = some s') : Follows p s s' := by
  induction es generalizing s with
  | nil => exact Option.some.inj hs ▸ .refl
  | cons e es ih =>
      rw [List.foldlM_cons] at hs
      obtain ⟨next, hnext, hrest⟩ := Option.bind_eq_some_iff.mp hs
      exact .head ⟨e, hnext⟩ (ih hrest)

lemma reachable_of_foldlM {p : Policy α} {hasWorker : Bool} {es : List (Event α)} {s : State α}
    (hs : es.foldlM (step p) { hasWorker := hasWorker } = some s) : Reachable p hasWorker s :=
  .of_follows .start (follows_of_foldlM es hs)

/-- A worker that has not started never starts, and one that has goes on. -/
lemma Transition.hasWorker_eq {p : Policy α} {s s' : State α} {e : Event α}
    (h : Transition p s e s') : s'.hasWorker = s.hasWorker := by
  cases h <;> rfl

lemma Reachable.hasWorker_eq {p : Policy α} {hasWorker : Bool} {s : State α}
    (h : Reachable p hasWorker s) : s.hasWorker = hasWorker := by
  induction h with
  | start => rfl
  | next _ _ hstep ih => exact (Transition.of_step hstep).hasWorker_eq.trans ih

/-! ## What only grows -/

lemma Transition.grants_subset {p : Policy α} {s s' : State α} {e : Event α}
    (h : Transition p s e s') : s.grants ⊆ s'.grants := by
  cases h with
  | grant => exact List.subset_append_left _ _
  | _ => exact List.Subset.refl _

lemma Transition.entries_length_le {p : Policy α} {s s' : State α} {e : Event α}
    (h : Transition p s e s') : s.entries.length ≤ s'.entries.length := by
  cases h with
  | register | registerAlone => simp
  | fold | attach | start | settleGranted | settle => simp
  | _ => exact le_rfl

lemma Transition.runs_length_le {p : Policy α} {s s' : State α} {e : Event α}
    (h : Transition p s e s') : s.runs.length ≤ s'.runs.length := by
  cases h with
  | start => simp
  | _ => exact le_rfl

lemma Follows.runs_length_le {p : Policy α} {s s' : State α} (hs : Follows p s s') :
    s.runs.length ≤ s'.runs.length := by
  induction hs with
  | refl => exact le_rfl
  | tail _ hstep ih =>
      obtain ⟨e, he⟩ := hstep
      exact ih.trans (Transition.of_step he).runs_length_le

lemma Follows.entries_length_le {p : Policy α} {s s' : State α} (hs : Follows p s s') :
    s.entries.length ≤ s'.entries.length := by
  induction hs with
  | refl => exact le_rfl
  | tail _ hstep ih =>
      obtain ⟨e, he⟩ := hstep
      exact ih.trans (Transition.of_step he).entries_length_le

end TrackerGuard.Coalescer
