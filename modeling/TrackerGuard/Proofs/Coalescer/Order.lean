import Mathlib
import TrackerGuard.Proofs.Coalescer.Ledger
import TrackerGuard.Proofs.Coalescer.Lock

/-!
# One run after the other

A task is over when it has been marked finished, which the thread that ran it does while it still
has the lock.  `State.IsOrdered` says that every task that was started is over, or that some thread
is in the middle of its run, but not both, and that no other task is the one or the other.

Whoever has the lock and is not in the middle of a run may therefore conclude that all runs so far
are over (`IsOrdered.isOver_of_holdsLock`).  That is the case of a thread that is about to start a
run, and of one that finds that somebody else ran its task.
-/

namespace TrackerGuard.Coalescer

variable {α : Type} {p : Policy α} {hasWorker : Bool} {s s' : State α}

/-- Whether a task has been run and marked finished. -/
def State.isOver (s : State α) (i : Nat) : Bool := s.entries[i]?.any (·.finished)

/-- The task that a thread is in the middle of running. -/
def Frame.run? : Frame → Option Nat
  | .running i | .settling i => some i
  | _ => none

/-- The tasks that a thread is in the middle of running. -/
def State.runsOf (s : State α) (t : Thread) : List Nat := (s.stack t).filterMap Frame.run?

lemma Frame.holdsLock_of_run? {f : Frame} {i : Nat} (h : f.run? = some i) : f.holdsLock := by
  cases f with
  | running | settling => rfl
  | _ => cases h

lemma runsOf_put {t : Thread} {fs : List Frame} (hframes : s'.frames = s.frames.put t fs)
    (hfs : fs.filterMap Frame.run? = s.runsOf t) (u : Thread) : s'.runsOf u = s.runsOf u := by
  rw [State.runsOf, stack_put hframes]
  split
  next hu => rw [hfs, hu]
  next => rfl

/-- When somebody has the lock and is not in the middle of a run, nobody is. -/
lemma State.IsLocked.runsOf_eq_nil (h : s.IsLocked) {t : Thread} {f : Frame} (hf : f ∈ s.stack t)
    (hlock : f.holdsLock) (hidle : f.run? = none) (u : Thread) : s.runsOf u = [] := by
  refine List.filterMap_eq_nil_iff.mpr fun g hg => ?_
  by_contra hne
  obtain ⟨i, hi⟩ := Option.ne_none_iff_exists'.mp hne
  obtain ⟨-, rfl⟩ := h.unique hf hg hlock (Frame.holdsLock_of_run? hi)
  exact hne hidle

/-- When nobody has the lock, nobody is in the middle of a run. -/
lemma State.IsLocked.runsOf_eq_nil_of_free (h : s.IsLocked) (hfree : s.owner = none) (t : Thread) :
    s.runsOf t = [] := by
  refine List.filterMap_eq_nil_iff.mpr fun f hf => ?_
  by_contra hne
  obtain ⟨i, hi⟩ := Option.ne_none_iff_exists'.mp hne
  have hown := h.owner_eq_of_mem hf (Frame.holdsLock_of_run? hi)
  rw [hfree] at hown
  cases hown

/-! ## Tasks that are over -/

lemma isOver_append {x : α} (h : s'.entries = s.entries ++ [{ waiting := some x }]) (i : Nat) :
    s'.isOver i = s.isOver i := by
  rw [State.isOver, h, State.isOver, List.getElem?_append]
  split
  · rfl
  next hi =>
    rw [List.getElem?_eq_none (Nat.le_of_not_lt hi)]
    cases i - s.entries.length <;> rfl

lemma isOver_modify {i : Nat} {f : Entry α → Entry α} (h : s'.entries = s.entries.modify i f)
    (hf : ∀ e, (f e).finished = e.finished) (j : Nat) : s'.isOver j = s.isOver j := by
  have hmap := congrArg (Option.any id) (map_getElem?_modify hf s.entries i j)
  rw [State.isOver, h, State.isOver]
  simpa only [Option.any_map, id] using hmap

lemma isOver_modify_finished {i : Nat} {f : Entry α → Entry α}
    (h : s'.entries = s.entries.modify i f) (hf : ∀ e, (f e).finished = true)
    (hi : i < s.entries.length) (j : Nat) : s'.isOver j ↔ j = i ∨ s.isOver j := by
  rw [State.isOver, h, State.isOver, List.getElem?_modify]
  by_cases hj : i = j
  · subst hj
    simp [List.getElem?_eq_getElem hi, hf]
  · simp [hj, Ne.symm hj]

lemma isOver_modify_of_le {i : Nat} {f : Entry α → Entry α}
    (h : s'.entries = s.entries.modify i f) (hf : ∀ e, e.finished → (f e).finished) (j : Nat)
    (hj : s.isOver j) : s'.isOver j := by
  obtain ⟨e, he, hover⟩ := (Option.any_eq_true _ _).mp hj
  rw [State.isOver, h, List.getElem?_modify, he]
  split
  · exact hf e hover
  · exact hover

/-- A task that is over stays so. -/
lemma Transition.isOver_mono {e : Event α} (hstep : Transition p s e s') :
    ∀ i, s.isOver i → s'.isOver i := by
  cases hstep with
  | register | registerAlone => exact fun i hi => (isOver_append rfl i).trans hi
  | fold | attach | start => exact isOver_modify_of_le rfl fun _ hover => hover
  | settleGranted | settle => exact isOver_modify_of_le rfl fun _ _ => rfl
  | _ => exact fun _ hi => hi

/-! ## The invariant -/

/-- The tasks that were started are those that are over and those in the middle of a run. -/
structure State.IsOrdered (s : State α) : Prop where
  lt_of_isOver : ∀ i, s.isOver i → i < s.runs.length
  lt_of_mem : ∀ t, ∀ i ∈ s.runsOf t, i < s.runs.length
  isOver_or_mem : ∀ i < s.runs.length, s.isOver i ∨ ∃ t, i ∈ s.runsOf t
  not_isOver_of_mem : ∀ t, ∀ i ∈ s.runsOf t, ¬ s.isOver i

namespace State.IsOrdered

/-- When nobody is in the middle of a run, all runs are over. -/
lemma isOver_of_runsOf_eq_nil (h : s.IsOrdered) (hnone : ∀ t, s.runsOf t = []) {i : Nat}
    (hi : i < s.runs.length) : s.isOver i := by
  refine (h.isOver_or_mem i hi).resolve_right ?_
  rintro ⟨t, hrun⟩
  rw [hnone] at hrun
  cases hrun

/-- Who has the lock and is not in the middle of a run knows that all runs are over. -/
lemma isOver_of_holdsLock (h : s.IsOrdered) (hlocked : s.IsLocked) {t : Thread} {f : Frame}
    (hf : f ∈ s.stack t) (hlock : f.holdsLock) (hidle : f.run? = none) {i : Nat}
    (hi : i < s.runs.length) : s.isOver i :=
  h.isOver_of_runsOf_eq_nil (hlocked.runsOf_eq_nil hf hlock hidle) hi

/-- A task that waits is not over. -/
lemma not_isOver_of_waiting (h : s.IsOrdered) (hledger : s.IsLedger p) {i : Nat} {x : α}
    (hwaits : s.entries[i]?.bind (·.waiting) = some x) : ¬ s.isOver i := by
  obtain ⟨rfl, -, -⟩ := hledger.of_waiting hwaits
  exact fun hover => lt_irrefl _ (h.lt_of_isOver _ hover)

/-- A task whose run has come to its end is registered. -/
lemma lt_of_settling (h : s.IsOrdered) (hledger : s.IsLedger p) {t : Thread} {i : Nat}
    {rest : List Frame} (htop : s.stack t = .settling i :: rest) : i < s.entries.length := by
  have hmem : i ∈ s.runsOf t := by
    rw [State.runsOf, htop]
    exact List.mem_cons_self
  exact (h.lt_of_mem t i hmem).trans_le hledger.runs_length_le

lemma start : ({ hasWorker := hasWorker } : State α).IsOrdered where
  lt_of_isOver i h := by simp [State.isOver] at h
  lt_of_mem t i h := by simp [State.runsOf, State.stack, Frames.of] at h
  isOver_or_mem i h := by simp at h
  not_isOver_of_mem t i h := by simp [State.runsOf, State.stack, Frames.of] at h

/-- A step that neither starts a run nor ends one. -/
lemma of_eq (h : s.IsOrdered) (hover : ∀ i, s'.isOver i = s.isOver i)
    (hrunsOf : ∀ t, s'.runsOf t = s.runsOf t) (hruns : s'.runs = s.runs) : s'.IsOrdered where
  lt_of_isOver i hi := by
    rw [hover] at hi
    exact hruns ▸ h.lt_of_isOver i hi
  lt_of_mem t i hi := by
    rw [hrunsOf] at hi
    exact hruns ▸ h.lt_of_mem t i hi
  isOver_or_mem i hi := by
    simp only [hover, hrunsOf]
    exact h.isOver_or_mem i (hruns ▸ hi)
  not_isOver_of_mem t i hi := by
    rw [hrunsOf] at hi
    rw [hover]
    exact h.not_isOver_of_mem t i hi

/-- A run starts, of the task after those that were started. -/
lemma take (h : s.IsOrdered) {t : Thread} {x : α} {rest : List Frame}
    (htop : s.stack t = .taking s.runs.length :: rest)
    (hframes : s'.frames = s.frames.put t (.running s.runs.length :: rest))
    (hover : ∀ i, s'.isOver i = s.isOver i)
    (hruns : s'.runs = s.runs ++ [(s.runs.length, x)]) : s'.IsOrdered := by
  have hlength : s'.runs.length = s.runs.length + 1 := by simp [hruns]
  have hmem (u : Thread) (i : Nat) :
      i ∈ s'.runsOf u ↔ (u = t ∧ i = s.runs.length) ∨ i ∈ s.runsOf u := by
    rw [State.runsOf, stack_put hframes]
    by_cases hu : u = t
    · simp [hu, State.runsOf, htop, Frame.run?]
    · simp [hu, State.runsOf]
  exact
    { lt_of_isOver := fun i hi => by
        rw [hover] at hi
        exact hlength ▸ (h.lt_of_isOver i hi).trans (Nat.lt_succ_self _)
      lt_of_mem := fun u i hi => by
        rw [hlength]
        obtain ⟨-, rfl⟩ | hi := (hmem u i).mp hi
        · exact Nat.lt_succ_self _
        · exact (h.lt_of_mem u i hi).trans (Nat.lt_succ_self _)
      isOver_or_mem := fun i hi => by
        obtain hi | rfl := Nat.lt_succ_iff_lt_or_eq.mp (hlength ▸ hi)
        · rw [hover]
          exact (h.isOver_or_mem i hi).imp_right fun ⟨u, hu⟩ => ⟨u, (hmem u i).mpr (.inr hu)⟩
        · exact .inr ⟨t, (hmem t _).mpr (.inl ⟨rfl, rfl⟩)⟩
      not_isOver_of_mem := fun u i hi => by
        rw [hover]
        obtain ⟨-, rfl⟩ | hi := (hmem u i).mp hi
        · exact fun hi => lt_irrefl _ (h.lt_of_isOver _ hi)
        · exact h.not_isOver_of_mem u i hi }

/-- A run is over, and nobody runs anything then. -/
lemma settle (h : s.IsOrdered) (hlocked : s.IsLocked) {t : Thread} {i : Nat} {rest : List Frame}
    (htop : s.stack t = .settling i :: rest) (hidle : ∀ u, s'.runsOf u = [])
    (hover : ∀ j, s'.isOver j ↔ j = i ∨ s.isOver j) (hruns : s'.runs = s.runs) :
    s'.IsOrdered where
  lt_of_isOver j hj := by
    rw [hruns]
    obtain rfl | hj := (hover j).mp hj
    · exact h.lt_of_mem t j (by rw [State.runsOf, htop]; exact List.mem_cons_self)
    · exact h.lt_of_isOver j hj
  lt_of_mem u j hj := by
    rw [hidle] at hj
    cases hj
  isOver_or_mem j hj := by
    refine .inl ((hover j).mpr ?_)
    obtain hj | ⟨u, hu⟩ := h.isOver_or_mem j (hruns ▸ hj)
    · exact .inr hj
    · obtain ⟨g, hg, hgrun⟩ := List.mem_filterMap.mp hu
      obtain ⟨-, rfl⟩ :=
        hlocked.unique (htop ▸ List.mem_cons_self) hg rfl (Frame.holdsLock_of_run? hgrun)
      exact .inl (Option.some.inj hgrun).symm
  not_isOver_of_mem u j hj := by
    rw [hidle] at hj
    cases hj

/-- A step that replaces the stack of one thread and leaves the runs as they are. -/
lemma put (h : s.IsOrdered) {t : Thread} {fs : List Frame}
    (hframes : s'.frames = s.frames.put t fs) (hfs : fs.filterMap Frame.run? = s.runsOf t)
    (hover : ∀ i, s'.isOver i = s.isOver i) (hruns : s'.runs = s.runs) : s'.IsOrdered :=
  h.of_eq hover (runsOf_put hframes hfs) hruns

/-- Steps keep the order of runs. -/
lemma step {e : Event α} (h : s.IsOrdered) (hlocked : s.IsLocked) (hledger : s.IsLedger p)
    (hstep : Transition p s e s') : s'.IsOrdered := by
  have hlocked' := hlocked.step hstep
  cases hstep with
  | fold => exact h.of_eq (isOver_modify rfl fun _ => rfl) (fun _ => rfl) rfl
  | register | registerAlone =>
      exact h.put rfl (by simp [State.runsOf, List.filterMap_cons, Frame.run?])
        (isOver_append rfl) rfl
  | attach top =>
      exact h.put rfl (by simp [State.runsOf, top, List.filterMap_cons, Frame.run?])
        (isOver_modify rfl fun _ => rfl) rfl
  | receiveFlush | flushAlone | closeAlone => exact h.of_eq (fun _ => rfl) (fun _ => rfl) rfl
  | receiveRun idle =>
      exact h.put rfl (by simp [State.runsOf, idle, List.filterMap_cons, Frame.run?])
        (fun _ => rfl) rfl
  | start top waits =>
      obtain ⟨rfl, -, -⟩ := hledger.of_waiting waits
      exact h.take top rfl (isOver_modify rfl fun _ => rfl) rfl
  | @settleGranted t _ _ _ top | @settle t _ _ top =>
      have hi := h.lt_of_settling hledger top
      have hidle := hlocked'.runsOf_eq_nil (t := t) (f := .releasing)
        (by rw [stack_put (s := s) rfl, if_pos rfl]; simp) rfl rfl
      exact h.settle hlocked top hidle
        (isOver_modify_finished rfl (fun _ => rfl) hi) rfl
  | expire | flush | close =>
      exact h.put rfl (by simp [State.runsOf, List.filterMap_cons, Frame.run?]) (fun _ => rfl) rfl
  | ask top | refuse top | grant top | attachLate top | acquire top | leave top | miss top
  | finish top | giveBack top | release top | resume top | resumeJoined top | returned top =>
      exact h.put rfl (by simp [State.runsOf, top, List.filterMap_cons, Frame.run?])
        (fun _ => rfl) rfl

end State.IsOrdered

theorem Reachable.isOrdered (h : Reachable p hasWorker s) : s.IsOrdered := by
  induction h with
  | start => exact .start
  | next _ hs hstep ih => exact ih.step hs.isLocked hs.isLedger (.of_step hstep)

end TrackerGuard.Coalescer
