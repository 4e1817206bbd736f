import Mathlib
import TrackerGuard.Proofs.Coalescer.Order

/-!
# No task is forgotten

A registered task stays in the queue until the worker takes it off, and then the worker is busy with
it until it is over.  What the worker took off its queue is in the outermost frame of its stack:
further frames are put on top of it only while the task runs, by what the task itself does.

A thread that runs a task leaves any other task to the worker.  That does not lose the other task,
because the frame that goes is not the worker's outermost one: below it is the frame of the run
that made the thread the owner of the lock.

A task that is in the queue or with the worker is unserved (`State.IsUnserved`).  The worker is done
with it only while it has the lock, and the task is over then.  So each registered task is over or
unserved (`State.IsServed`).  Once the worker has drained its queue, all are over.
-/

namespace TrackerGuard.Coalescer

variable {α : Type} {p : Policy α} {hasWorker : Bool} {s s' : State α}

/-- The task that a thread is busy with, from wanting the lock for it to marking it finished. -/
def Frame.task? : Frame → Option Nat
  | .acquiring i | .taking i | .running i | .settling i => some i
  | _ => none

/-- The task of the outermost frame. -/
def outermost? : List Frame → Option Nat
  | [] => none
  | [f] => f.task?
  | _ :: f :: rest => outermost? (f :: rest)

/-- The task that the worker took off its queue. -/
def State.served? (s : State α) : Option Nat := outermost? (s.stack worker)

lemma outermost?_cons_of_ne_nil (f : Frame) {rest : List Frame} (h : rest ≠ []) :
    outermost? (f :: rest) = outermost? rest := by
  cases rest with
  | nil => exact absurd rfl h
  | cons => rfl

lemma outermost?_cons_of_task?_eq_none {f : Frame} (hf : f.task? = none) (rest : List Frame) :
    outermost? (f :: rest) = outermost? rest := by
  cases rest with
  | nil => exact hf
  | cons => rfl

lemma outermost?_cons_congr {f g : Frame} (h : f.task? = g.task?) (rest : List Frame) :
    outermost? (f :: rest) = outermost? (g :: rest) := by
  cases rest with
  | nil => exact h
  | cons => rfl

lemma served?_put {t : Thread} {fs : List Frame} (hframes : s'.frames = s.frames.put t fs)
    (hfs : t = worker → outermost? fs = outermost? (s.stack t)) : s'.served? = s.served? := by
  rw [State.served?, stack_put hframes]
  split
  next ht => rw [hfs ht.symm, ← ht, State.served?]
  next => rfl

/-- When the top of a stack is replaced, the worker is busy with the same task as before, unless it
was busy with that of the top. -/
lemma served?_put_or {t : Thread} {f : Frame} {rest fs : List Frame}
    (htop : s.stack t = f :: rest) (hframes : s'.frames = s.frames.put t fs)
    (hfs : rest ≠ [] → outermost? fs = outermost? rest) {i : Nat} (hi : s.served? = some i) :
    s'.served? = some i ∨ t = worker ∧ f.task? = some i := by
  by_cases ht : t = worker
  · subst ht
    rw [State.served?, htop] at hi
    by_cases hrest : rest = []
    · exact .inr ⟨rfl, by rwa [hrest] at hi⟩
    · refine .inl ?_
      rwa [State.served?, stack_put hframes, if_pos rfl, hfs hrest,
        ← outermost?_cons_of_ne_nil f hrest]
  · exact .inl (by rwa [served?_put hframes fun h => absurd h ht])

lemma stack_worker_ne_nil_of_mayExpire (h : s.mayExpire worker) : s.stack worker ≠ [] := by
  intro hnil
  simp [State.mayExpire, State.mayCall, hnil] at h

/-- Below a thread's wish for a lock that it has itself, there is what it took the lock for. -/
lemma State.IsLocked.ne_nil_of_owner (h : s.IsLocked) {t : Thread} {i : Nat} {rest : List Frame}
    (htop : s.stack t = .acquiring i :: rest) (hown : s.owner = some t) : rest ≠ [] := by
  rintro rfl
  have hcount := h t
  rw [htop, if_pos hown] at hcount
  cases hcount

/-! ## What the worker has not served -/

/-- The task is in the queue or with the worker. -/
def State.IsUnserved (s : State α) (i : Nat) : Prop := .run i ∈ s.queue ∨ s.served? = some i

namespace State.IsUnserved

variable {i : Nat}

/-- A step that leaves the worker busy with the same task, and takes nothing off the queue. -/
lemma put (h : s.IsUnserved i) {t : Thread} {fs : List Frame}
    (hframes : s'.frames = s.frames.put t fs)
    (hfs : t = worker → outermost? fs = outermost? (s.stack t))
    (hqueue : s.queue ⊆ s'.queue) : s'.IsUnserved i := by
  rw [State.IsUnserved, served?_put hframes hfs]
  exact h.imp_left fun hmem => hqueue hmem

/-- A step of a thread that has the lock: it may be the worker, and be done with its task. -/
lemma put_or (h : s.IsUnserved i) {t : Thread} {f : Frame} {rest fs : List Frame}
    (htop : s.stack t = f :: rest) (hframes : s'.frames = s.frames.put t fs)
    (hfs : rest ≠ [] → outermost? fs = outermost? rest) (hqueue : s'.queue = s.queue) :
    s'.IsUnserved i ∨ t = worker ∧ f.task? = some i := by
  obtain hmem | hserved := h
  · exact .inl (.inl (hqueue ▸ hmem))
  · exact (served?_put_or htop hframes hfs hserved).imp_left .inr

/-- The worker takes a task off its queue. -/
lemma receive {j : Nat} (h : s.IsUnserved i) (hidle : s.stack worker = []) {queue : List Message}
    (hfirst : s.queue = .run j :: queue) (hframes : s'.frames = s.frames.put worker [.acquiring j])
    (hqueue : s'.queue = queue) : s'.IsUnserved i := by
  obtain hmem | hserved := h
  · rw [hfirst, List.mem_cons] at hmem
    obtain hij | hmem := hmem
    · refine .inr ?_
      rw [State.served?, stack_put hframes, if_pos rfl, ← Message.run.inj hij]
      rfl
    · exact .inl (hqueue ▸ hmem)
  · rw [State.served?, hidle] at hserved
    cases hserved

/-- The worker is done with a task only while it has the lock, and when the task is over: either it
ran the task itself, or it finds that somebody else did, who marked the task finished before giving
the lock back. -/
lemma step {e : Event α} (h : s.IsUnserved i) (hlocked : s.IsLocked) (hledger : s.IsLedger p)
    (hordered : s.IsOrdered) (hworker : s.hasWorker) (hstep : Transition p s e s') :
    s'.IsUnserved i ∨ s.owner = some worker ∧ (i < s.entries.length → s'.isOver i) := by
  have hsame : s.queue ⊆ s.queue := List.Subset.refl _
  cases hstep with
  | registerAlone _ _ _ alone | flushAlone _ _ alone | closeAlone _ _ _ alone =>
      exact absurd hworker (Bool.eq_false_iff.mp alone)
  | fold => exact .inl h
  | register =>
      exact .inl (h.put rfl (fun _ => outermost?_cons_of_task?_eq_none rfl _)
        (List.subset_append_left _ _))
  | expire may =>
      refine .inl (h.put rfl (fun ht => ?_) hsame)
      subst ht
      exact outermost?_cons_of_ne_nil _ (stack_worker_ne_nil_of_mayExpire may)
  | receiveRun idle first => exact .inl (h.receive idle first rfl rfl)
  | receiveFlush _ first => exact .inl (h.imp_left fun hmem => by simpa [first] using hmem)
  | leave top own =>
      have hrest := hlocked.ne_nil_of_owner top own
      exact .inl (h.put rfl (fun _ => by rw [top, outermost?_cons_of_ne_nil _ hrest]) hsame)
  | miss top gone =>
      refine Or.imp_right ?_ (h.put_or top rfl (outermost?_cons_of_ne_nil _) rfl)
      rintro ⟨rfl, hij⟩
      obtain rfl := Option.some.inj hij
      have hmem := top ▸ List.mem_cons_self
      exact ⟨hlocked.owner_eq_of_mem hmem rfl, fun hi =>
        hordered.isOver_of_holdsLock hlocked hmem rfl rfl (hledger.lt_of_not_waiting hi gone)⟩
  | settleGranted top | settle top =>
      have hlt := hordered.lt_of_settling hledger top
      refine Or.imp_right ?_ (h.put_or top rfl (fun hrest => ?_) rfl)
      · rintro ⟨rfl, hij⟩
        obtain rfl := Option.some.inj hij
        exact ⟨hlocked.owner_eq_of_mem (top ▸ List.mem_cons_self) rfl, fun _ =>
          (isOver_modify_finished rfl (fun _ => rfl) hlt _).mpr (.inl rfl)⟩
      · simp [outermost?_cons_of_ne_nil, hrest]
  | ask top | grant top | attachLate top | acquire top | start top | finish top =>
      exact .inl (h.put rfl (fun _ => by rw [top]; exact outermost?_cons_congr (by rfl) _) hsame)
  | refuse top | attach top | giveBack top | release top | resume top | resumeJoined top
  | returned top =>
      exact .inl (h.put rfl (fun _ => by rw [top, outermost?_cons_of_task?_eq_none rfl]) hsame)
  | flush =>
      exact .inl (h.put rfl (fun _ => outermost?_cons_of_task?_eq_none rfl _)
        (List.subset_append_left _ _))
  | close => exact .inl (h.put rfl (fun _ => outermost?_cons_of_task?_eq_none rfl _) hsame)

end State.IsUnserved

lemma queue_and_stack_of_isDrained (h : s.isDrained) : s.queue = [] ∧ s.stack worker = [] := by
  rw [State.isDrained, Bool.and_eq_true, Bool.and_eq_true] at h
  exact ⟨List.isEmpty_iff.mp h.1.2, List.isEmpty_iff.mp h.2⟩

lemma not_isUnserved_of_isDrained (hdrained : s.isDrained) (i : Nat) : ¬ s.IsUnserved i := by
  obtain ⟨hqueue, hidle⟩ := queue_and_stack_of_isDrained hdrained
  rintro (hmem | hserved)
  · rw [hqueue] at hmem
    cases hmem
  · rw [State.served?, hidle] at hserved
    cases hserved

/-! ## New tasks -/

/-- The tasks that a thread is busy with. -/
def State.tasksOf (s : State α) (t : Thread) : List Nat := (s.stack t).filterMap Frame.task?

/-- A task that is new is in the queue, or its thread is busy with it for want of a worker. -/
lemma Transition.mem_queue_or_busy {e : Event α} (hstep : Transition p s e s') {i : Nat}
    (hnew : ¬ i < s.entries.length) (hi : i < s'.entries.length) :
    .run i ∈ s'.queue ∨ s.hasWorker = false ∧ ∃ t, i ∈ s'.tasksOf t := by
  cases hstep with
  | fold | attach | start | settleGranted | settle => exact absurd (by simpa using hi) hnew
  | register =>
      rw [List.length_append, List.length_singleton] at hi
      obtain rfl : i = s.entries.length := by omega
      exact .inl (List.mem_append_right _ List.mem_cons_self)
  | @registerAlone t _ _ _ _ alone =>
      rw [List.length_append, List.length_singleton] at hi
      obtain rfl : i = s.entries.length := by omega
      refine .inr ⟨alone, t, ?_⟩
      rw [State.tasksOf, stack_put (s := s) rfl, if_pos rfl]
      simp [List.filterMap_cons, Frame.task?]
  | _ => exact absurd hi hnew

/-! ## The invariant -/

/-- Each registered task is over, in the queue or with the worker. -/
def State.IsServed (s : State α) : Prop :=
  ∀ i < s.entries.length, s.isOver i ∨ .run i ∈ s.queue ∨ s.served? = some i

namespace State.IsServed

lemma start : ({} : State α).IsServed := fun i hi => by simp at hi

/-- Steps keep every task served. -/
lemma step {e : Event α} (h : s.IsServed) (hlocked : s.IsLocked) (hledger : s.IsLedger p)
    (hordered : s.IsOrdered) (hworker : s.hasWorker) (hstep : Transition p s e s') :
    s'.IsServed := by
  intro i hi
  by_cases hold : i < s.entries.length
  · obtain hover | (hunserved : s.IsUnserved i) := h i hold
    · exact .inl (hstep.isOver_mono i hover)
    · obtain hkept | ⟨-, hdone⟩ := hunserved.step hlocked hledger hordered hworker hstep
      · exact .inr hkept
      · exact .inl (hdone hold)
  · obtain hqueue | ⟨halone, -⟩ := hstep.mem_queue_or_busy hold hi
    · exact .inr (.inl hqueue)
    · exact absurd hworker (Bool.eq_false_iff.mp halone)

/-- Once the worker has drained its queue, every registered task is over. -/
lemma isOver_of_isDrained (h : s.IsServed) (hdrained : s.isDrained) {i : Nat}
    (hi : i < s.entries.length) : s.isOver i :=
  (h i hi).resolve_right (not_isUnserved_of_isDrained hdrained i)

end State.IsServed

theorem Reachable.isServed (h : Reachable p true s) : s.IsServed := by
  induction h with
  | start => exact .start
  | next _ hs hstep ih =>
      exact ih.step hs.isLocked hs.isLedger hs.isOrdered hs.hasWorker_eq (.of_step hstep)

/-- Only a worker that has started can drain its queue. -/
lemma Reachable.of_isDrained (h : Reachable p hasWorker s) (hdrained : s.isDrained) :
    Reachable p true s := by
  rw [State.isDrained, Bool.and_eq_true, Bool.and_eq_true, h.hasWorker_eq] at hdrained
  exact hdrained.1.1 ▸ h

/-- Once the worker has drained its queue, every registered task has been started. -/
lemma Reachable.length_eq_of_isDrained (h : Reachable p true s) (hdrained : s.isDrained) :
    s.runs.length = s.entries.length := by
  refine le_antisymm h.isLedger.runs_length_le (Nat.le_of_not_lt fun hlt => ?_)
  have hover := h.isServed.isOver_of_isDrained hdrained hlt
  exact lt_irrefl _ (h.isOrdered.lt_of_isOver _ hover)

/-- Once the worker has drained its queue, no thread is in the middle of a run. -/
lemma Reachable.runsOf_eq_nil_of_isDrained (h : Reachable p true s) (hdrained : s.isDrained)
    (t : Thread) : s.runsOf t = [] := by
  refine List.eq_nil_iff_forall_not_mem.mpr fun i hi => ?_
  have hlt := (h.isOrdered.lt_of_mem t i hi).trans_le h.isLedger.runs_length_le
  exact h.isOrdered.not_isOver_of_mem t i hi (h.isServed.isOver_of_isDrained hdrained hlt)

end TrackerGuard.Coalescer
