import Mathlib
import TrackerGuard.Proofs.Coalescer.Service

/-!
# Tasks that nobody comes back to

When the worker has not started, a thread runs the task that it registers before its submission
returns.  It leaves the task if it is in the middle of a run, and then nobody else is told of it.
The task waits on: further submissions are folded into it, and it is run only if its time is up and
the handler is called by a thread that is free.  Such a task is stranded (`State.IsStranded`).

With and without a worker, a registered task is over, or a thread left it, or it is in the queue, or
a thread is busy with it (`State.IsMinded`).  So when nothing is queued and nobody is in the middle
of anything, a task is over or stranded, and with a worker it is over
(`Reachable.isOver_or_isStranded`).  Stranded tasks apart, nothing is missed: when no task waits and
nobody has the lock, every task is over (`Reachable.isOver_of_isAtRest`).
-/

namespace TrackerGuard.Coalescer

variable {α : Type} {p : Policy α} {hasWorker : Bool} {s s' : State α}

/-- The task waits, and a thread that was to run it left it. -/
def State.IsStranded (s : State α) (i : Nat) : Prop :=
  (∃ x, s.entries[i]?.bind (·.waiting) = some x) ∧ i ∈ s.left

/-! ## Where a task is -/

/-- Where a registered task is, whether the worker has started or not. -/
inductive State.IsMinded (s : State α) (i : Nat) : Prop where
  | finished (h : s.isOver i)
  | left (h : i ∈ s.left)
  | queued (h : .run i ∈ s.queue)
  | busy (t : Thread) (h : i ∈ s.tasksOf t)

lemma Transition.left_subset {e : Event α} (hstep : Transition p s e s') : s.left ⊆ s'.left := by
  cases hstep with
  | leave => exact List.subset_append_left _ _
  | _ => exact List.Subset.refl _

namespace State.IsMinded

variable {i : Nat}

/-- A step of a thread that stays busy with what it was busy with. -/
lemma of_busy {t u : Thread} {fs : List Frame} (hbusy : i ∈ s.tasksOf t)
    (hframes : s'.frames = s.frames.put u fs) (hfs : s.tasksOf u ⊆ fs.filterMap Frame.task?) :
    s'.IsMinded i := by
  refine .busy t ?_
  rw [State.tasksOf, stack_put hframes]
  split
  next ht => exact hfs (ht ▸ hbusy)
  next => exact hbusy

/-- A step of a thread that is done with the task on top, which is minded all the same. -/
lemma of_done {t u : Thread} {f : Frame} {j : Nat} {rest fs : List Frame}
    (hbusy : i ∈ s.tasksOf t) (htop : s.stack u = f :: rest) (hf : f.task? = some j)
    (hdone : i = j → s'.IsMinded i) (hframes : s'.frames = s.frames.put u fs)
    (hfs : rest.filterMap Frame.task? ⊆ fs.filterMap Frame.task?) : s'.IsMinded i := by
  by_cases ht : t = u
  · subst ht
    rw [State.tasksOf, htop, List.filterMap_cons_some hf, List.mem_cons] at hbusy
    obtain hij | hrest := hbusy
    · exact hdone hij
    · refine .busy t ?_
      rw [State.tasksOf, stack_put hframes, if_pos rfl]
      exact hfs hrest
  · refine .busy t ?_
    rwa [State.tasksOf, stack_put hframes, if_neg ht]

/-- A thread that is done with a task has run it, finds it run, or leaves it. -/
lemma step_of_busy {e : Event α} {t : Thread} (hbusy : i ∈ s.tasksOf t) (hlocked : s.IsLocked)
    (hledger : s.IsLedger p) (hordered : s.IsOrdered) (hi : i < s.entries.length)
    (hstep : Transition p s e s') : s'.IsMinded i := by
  cases hstep with
  | fold | receiveFlush | flushAlone | closeAlone => exact .busy t hbusy
  | register | registerAlone | expire | flush | close =>
      refine of_busy hbusy rfl ?_
      simp +contextual [State.tasksOf, List.filterMap_cons, Frame.task?]
  | receiveRun idle => exact of_busy hbusy rfl (by simp [State.tasksOf, idle])
  | leave top =>
      refine of_done hbusy top rfl ?_ rfl (List.Subset.refl _)
      rintro rfl
      exact .left (List.mem_append_right _ List.mem_cons_self)
  | miss top gone =>
      refine of_done hbusy top rfl ?_ rfl (by simp [List.filterMap_cons, Frame.task?])
      rintro rfl
      have hstarted := hledger.lt_of_not_waiting hi gone
      have hmem := top ▸ List.mem_cons_self
      exact .finished (hordered.isOver_of_holdsLock hlocked hmem rfl rfl hstarted)
  | settleGranted top | settle top =>
      refine of_done hbusy top rfl ?_ rfl (by simp [List.filterMap_cons, Frame.task?])
      rintro rfl
      exact .finished ((isOver_modify_finished rfl (fun _ => rfl) hi _).mpr (.inl rfl))
  | ask top | refuse top | grant top | attachLate top | attach top | acquire top | start top
  | finish top | giveBack top | release top | resume top | resumeJoined top | returned top =>
      exact of_busy hbusy rfl (by simp [State.tasksOf, top, List.filterMap_cons, Frame.task?])

/-- What is queued stays so until the worker is busy with it. -/
lemma step_of_queued {e : Event α} (hmem : .run i ∈ s.queue) (hstep : Transition p s e s') :
    s'.IsMinded i := by
  cases hstep with
  | register | flush => exact .queued (List.mem_append_left _ hmem)
  | receiveRun _ first =>
      rw [first, List.mem_cons] at hmem
      obtain hij | hmem := hmem
      · refine .busy worker ?_
        rw [State.tasksOf, stack_put (s := s) rfl, if_pos rfl, Message.run.inj hij]
        exact List.mem_cons_self
      · exact .queued hmem
  | receiveFlush _ first => exact .queued (by simpa [first] using hmem)
  | _ => exact .queued hmem

/-- Steps keep a task minded. -/
lemma step {e : Event α} (h : s.IsMinded i) (hlocked : s.IsLocked) (hledger : s.IsLedger p)
    (hordered : s.IsOrdered) (hi : i < s.entries.length) (hstep : Transition p s e s') :
    s'.IsMinded i := by
  cases h with
  | finished hover => exact .finished (hstep.isOver_mono i hover)
  | left hleft => exact .left (hstep.left_subset hleft)
  | queued hmem => exact step_of_queued hmem hstep
  | busy t hbusy => exact step_of_busy hbusy hlocked hledger hordered hi hstep

end State.IsMinded

theorem Reachable.isMinded (h : Reachable p hasWorker s) :
    ∀ i < s.entries.length, s.IsMinded i := by
  induction h with
  | start => exact fun i hi => absurd hi (Nat.not_lt_zero i)
  | @next s _ _ hs hstep ih =>
      intro i hi
      by_cases hold : i < s.entries.length
      · exact (ih i hold).step hs.isLocked hs.isLedger hs.isOrdered hold (.of_step hstep)
      · obtain hqueue | ⟨-, t, hbusy⟩ := (Transition.of_step hstep).mem_queue_or_busy hold hi
        · exact .queued hqueue
        · exact .busy t hbusy

/-! ## When nothing is left to do -/

lemma stack_eq_nil_of_isQuiet (h : s.isQuiet) (t : Thread) : s.stack t = [] := by
  rw [State.isQuiet, Bool.and_eq_true, List.all_eq_true] at h
  exact (stack_mem_or_eq_nil s t).elim (fun hmem => List.isEmpty_iff.mp (h.2 _ hmem)) id

lemma Reachable.isDrained_of_isQuiet (h : Reachable p true s) (hquiet : s.isQuiet) :
    s.isDrained := by
  have hidle := stack_eq_nil_of_isQuiet hquiet worker
  rw [State.isQuiet, Bool.and_eq_true] at hquiet
  rw [State.isDrained, h.hasWorker_eq, hquiet.1, hidle]
  rfl

/-- When nobody is in the middle of anything, a task that is not over is stranded, and there is no
worker. -/
lemma Reachable.isOver_or_isStranded (h : Reachable p hasWorker s) (hquiet : s.isQuiet) {i : Nat}
    (hi : i < s.entries.length) : s.isOver i ∨ hasWorker = false ∧ s.IsStranded i := by
  cases hasWorker with
  | true => exact .inl (h.isServed.isOver_of_isDrained (h.isDrained_of_isQuiet hquiet) hi)
  | false =>
      have hstack := stack_eq_nil_of_isQuiet hquiet
      by_cases hgone : s.entries[i]?.bind (·.waiting) = none
      · have hnone (t : Thread) : s.runsOf t = [] := by
          rw [State.runsOf, hstack, List.filterMap_nil]
        have hstarted := h.isLedger.lt_of_not_waiting hi hgone
        exact .inl (h.isOrdered.isOver_of_runsOf_eq_nil hnone hstarted)
      · cases h.isMinded i hi with
        | finished hover => exact .inl hover
        | left hleft => exact .inr ⟨rfl, Option.ne_none_iff_exists'.mp hgone, hleft⟩
        | queued hmem =>
            rw [State.isQuiet, Bool.and_eq_true, List.isEmpty_iff] at hquiet
            simp [hquiet.1] at hmem
        | busy t hbusy => simp [State.tasksOf, hstack] at hbusy

lemma owner_of_isAtRest (h : s.isAtRest) : s.owner = none := by
  rw [State.isAtRest, Bool.and_eq_true, Option.isNone_iff_eq_none] at h
  exact h.2

/-- When no task waits and nobody has the lock, every registered task is over. -/
lemma Reachable.isOver_of_isAtRest (h : Reachable p hasWorker s) (hrest : s.isAtRest) :
    s.runs.length = s.entries.length ∧ ∀ i < s.entries.length, s.isOver i := by
  have hlast : s.entries.getLast?.bind (·.waiting) = none := by
    rw [State.isAtRest, Bool.and_eq_true, Bool.not_eq_true', State.hasPending] at hrest
    cases hget : s.entries.getLast? with
    | none => rfl
    | some e => simpa [hget] using hrest.1
  have hlength := h.isLedger.length_eq_of_last hlast
  have hnone := h.isLocked.runsOf_eq_nil_of_free (owner_of_isAtRest hrest)
  exact ⟨hlength.symm, fun i hi => h.isOrdered.isOver_of_runsOf_eq_nil hnone (hlength ▸ hi)⟩

end TrackerGuard.Coalescer
