import Mathlib
import TrackerGuard.Proofs.Coalescer.Stranded

/-!
# What every history satisfies

Whatever the threads do and in whichever order, a coalescer neither loses nor doubles nor reorders
what is submitted, and its runs do not overlap.

`runs_fold_submissions` reads a history from outside: the submissions among its events fall into
consecutive blocks, each run is given the fold of its block, and a block ends where its run is
started.  `runs_one_after_another` is about the tasks: they are started in the order in which they
were registered, each after the one before is over, and none is left when the queue is drained.

The order of runs does not depend on the worker.  That every task is run does: when the worker has
not started, a task that is submitted by a running one is stranded, and this is the only way in
which a task is not run.

Both are shown at work on `burst`, in which two submissions are folded into one run, and that run
submits a further task while its time is up.  `stranded` is a history without a worker.
-/

namespace TrackerGuard.Coalescer

variable {α : Type} {p : Policy α} {hasWorker : Bool} {s s' : State α}

/-- What an event submits. -/
def Event.submitted? : Event α → Option α
  | .submit _ x => some x
  | _ => none

/-- The submissions are remembered as they come. -/
lemma Transition.submissions_eq {e : Event α} (hstep : Transition p s e s') :
    s'.submissions.map Prod.fst = s.submissions.map Prod.fst ++ e.submitted?.toList := by
  cases hstep with
  | fold | register | registerAlone => simp [Event.submitted?]
  | _ => simp [Event.submitted?, State.withStack]

lemma submissions_of_foldlM (es : List (Event α)) {s s' : State α}
    (h : es.foldlM (step p) s = some s') :
    s'.submissions.map Prod.fst =
      s.submissions.map Prod.fst ++ es.filterMap Event.submitted? := by
  induction es generalizing s with
  | nil =>
      obtain rfl := Option.some.inj h
      simp
  | cons e es ih =>
      rw [List.foldlM_cons] at h
      obtain ⟨next, hnext, hrest⟩ := Option.bind_eq_some_iff.mp h
      rw [ih hrest, (Transition.of_step hnext).submissions_eq, List.append_assoc]
      cases hsubmitted : e.submitted? with
      | none => simp [hsubmitted]
      | some x => simp [hsubmitted]

/-- The blocks of the tasks that were started when a run starts are what was submitted before. -/
lemma flatMap_block_of_start {e : Event α} {later : State α} (h : Reachable p hasWorker s)
    (hstep : step p s e = some s') (hstarts : s.runs.length < s'.runs.length)
    (hlater : Follows p s' later) :
    (List.range s'.runs.length).flatMap later.block = s.submissions.map Prod.fst := by
  have h' : Reachable p hasWorker s' := .next e h hstep
  obtain hruns | ⟨hsubmissions, hlength, -⟩ := (Transition.of_step hstep).runs_eq h.isLedger
  · exact absurd (congrArg List.length hruns) hstarts.ne'
  · rw [← hsubmissions, h'.isLedger.blocks_of_length_eq hlength]
    exact List.flatMap_congr fun i hi => hlater.block_eq h' (List.mem_range.mp hi)

/-- No submission is lost, doubled or reordered. -/
theorem runs_fold_submissions {es : List (Event α)} (h : es.foldlM (step p) {} = some s) :
    es.filterMap Event.submitted? = (List.range s.entries.length).flatMap s.block ∧
      (∀ i < s.entries.length, s.block i ≠ []) ∧
      s.runs.length ≤ s.entries.length ∧
      (∀ n r, s.runs[n]? = some r → r.1 = n ∧ p.foldAll (s.block n) = some r.2) ∧
      (∀ before e after s₁ s₂, es = before ++ e :: after →
        before.foldlM (step p) {} = some s₁ → step p s₁ e = some s₂ →
        s₁.runs.length < s₂.runs.length →
        (List.range s₂.runs.length).flatMap s.block = before.filterMap Event.submitted?) ∧
      (s.isDrained →
        es.filterMap Event.submitted? = (List.range s.runs.length).flatMap s.block) := by
  have hreachable : Reachable p true s := reachable_of_foldlM h
  have hledger := hreachable.isLedger
  have hblocks : es.filterMap Event.submitted? = (List.range s.entries.length).flatMap s.block := by
    rw [← hledger.blocks, submissions_of_foldlM es h]
    rfl
  refine ⟨hblocks, hledger.block_ne_nil, hledger.runs_length_le, hledger.runs_eq, ?_,
    fun hdrained => (hreachable.length_eq_of_isDrained hdrained).symm ▸ hblocks⟩
  · intro before e after s₁ s₂ hes hbefore hstep hstarts
    have hafter : after.foldlM (step p) s₂ = some s := by
      simpa [hes, List.foldlM_append, hbefore, hstep] using h
    have hreachable₁ : Reachable p true s₁ := reachable_of_foldlM hbefore
    rw [flatMap_block_of_start hreachable₁ hstep hstarts (follows_of_foldlM after hafter),
      submissions_of_foldlM before hbefore]
    rfl

/-- Numbers are submitted, and those that wait are added up. -/
def adding : Policy Nat where
  isDuplicate newer waiting := newer == waiting
  merge waiting newer := waiting + newer

/-- Two submissions make up a run.  It submits a further task, whose time is up at once; the handler
is called on the thread of the run and leaves the task to the worker. -/
def burst : List (Event Nat) :=
  [.submit 1 1, .ask 1, .answer 1 (some 7), .attach 1, .submit 2 2,
    .receive, .acquire worker, .take worker,
    .submit worker 5, .ask worker, .expire worker 1, .acquire worker, .answer worker none,
    .finish worker true, .settle worker, .giveBack worker, .release worker,
    .receive, .acquire worker, .take worker, .finish worker false, .settle worker, .release worker]

theorem burst_runs_fold_submissions :
    ∃ s, burst.foldlM (step adding) {} = some s ∧
      [1, 2, 5] = (List.range 2).flatMap s.block ∧ s.runs = [(0, 3), (1, 5)] ∧
      adding.foldAll (s.block 0) = some 3 ∧ adding.foldAll (s.block 1) = some 5 := by
  refine ⟨_, rfl, ?_⟩
  obtain ⟨hblocks, -, -, hruns, -, -⟩ := @runs_fold_submissions _ adding _ burst rfl
  exact ⟨hblocks, rfl, (hruns 0 _ rfl).2, (hruns 1 _ rfl).2⟩

/-! ## Tasks -/

lemma Reachable.countP_waiting_le_one (h : Reachable p hasWorker s) :
    s.entries.countP (·.waiting.isSome) ≤ 1 := by
  have hfirst : (s.entries.take s.runs.length).countP (·.waiting.isSome) = 0 := by
    refine List.countP_eq_zero.mpr fun e he hwaits => ?_
    obtain ⟨i, hi, hei⟩ := List.mem_take_iff_getElem.mp he
    have hnone : e.waiting = none := by
      have hat := h.isLedger.waiting_eq i
      rwa [if_neg (by omega), List.getElem?_eq_getElem (by omega), hei] at hat
    simp [hnone] at hwaits
  have hlast := @List.countP_le_length _ (·.waiting.isSome) (s.entries.drop s.runs.length)
  have hle := h.isLedger.length_le
  rw [List.length_drop] at hlast
  rw [← List.take_append_drop s.runs.length s.entries, List.countP_append, hfirst]
  omega

lemma Reachable.map_fst_runs (h : Reachable p hasWorker s) :
    s.runs.map Prod.fst = List.range s.runs.length := by
  refine List.ext_getElem (by simp) fun n hn _ => ?_
  rw [List.length_map] at hn
  simpa using (h.isLedger.runs_eq n _ (List.getElem?_eq_getElem hn)).1

/-- A task that waits is in the queue or with the worker. -/
lemma Reachable.mem_queue_or_served (h : Reachable p true s) {i : Nat} {x : α}
    (hwaits : s.entries[i]?.bind (·.waiting) = some x) :
    .run i ∈ s.queue ∨ s.served? = some i := by
  obtain ⟨hfirst, hlength, -⟩ := h.isLedger.of_waiting hwaits
  exact (h.isServed i (by omega)).resolve_left (h.isOrdered.not_isOver_of_waiting h.isLedger hwaits)

/-- When a run starts, those before are over and nobody runs anything. -/
lemma Reachable.isOver_of_start (h : Reachable p hasWorker s) {e : Event α}
    (hstep : step p s e = some s') (hstarts : s'.runs ≠ s.runs) :
    (∀ i < s.runs.length, s.isOver i) ∧ (∀ t, s.runsOf t = []) ∧
      ∃ x, s'.runs = s.runs ++ [(s.runs.length, x)] := by
  cases Transition.of_step hstep with
  | start top waits =>
      obtain ⟨rfl, -, -⟩ := h.isLedger.of_waiting waits
      have htop := top ▸ List.mem_cons_self
      exact ⟨fun i => h.isOrdered.isOver_of_holdsLock h.isLocked htop rfl rfl,
        h.isLocked.runsOf_eq_nil htop rfl rfl, _, rfl⟩
  | _ => exact absurd rfl hstarts

/-- Tasks are run one after another and in their order, whether the worker has started or not.  When
the worker has drained its queue, all of them have been run, those that a running thread left
included; without a worker so they have when no task waits and nobody has the lock.  When there is
nothing more to do for anybody, a task that was not run waits and was left, and with a worker there
is none. -/
theorem runs_one_after_another (h : Reachable p hasWorker s) :
    s.entries.countP (·.waiting.isSome) ≤ 1 ∧
      s.frames.flatten.countP Frame.isRunning ≤ 1 ∧
      s.runs.map Prod.fst = List.range s.runs.length ∧
      (∀ e s', step p s e = some s' → s'.runs ≠ s.runs →
        (∀ i < s.runs.length, s.isOver i) ∧ (∀ t, s.runsOf t = []) ∧
          ∃ x, s'.runs = s.runs ++ [(s.runs.length, x)]) ∧
      (hasWorker → ∀ i x, s.entries[i]?.bind (·.waiting) = some x →
        .run i ∈ s.queue ∨ s.served? = some i) ∧
      (s.isDrained ∨ s.isAtRest → s.runs.map Prod.fst = List.range s.entries.length ∧
        ∀ i < s.entries.length, s.isOver i) ∧
      (s.isQuiet → ∀ i < s.entries.length,
        s.isOver i ∨ hasWorker = false ∧ s.IsStranded i) := by
  refine ⟨h.countP_waiting_le_one, h.isLocked.countP_isRunning_le_one, h.map_fst_runs,
    fun e s' => h.isOver_of_start, ?_, ?_, fun hquiet i => h.isOver_or_isStranded hquiet⟩
  · rintro rfl i x
    exact h.mem_queue_or_served
  · rintro (hdrained | hrest)
    · have hworker := h.of_isDrained hdrained
      rw [h.map_fst_runs, hworker.length_eq_of_isDrained hdrained]
      exact ⟨rfl, fun i => hworker.isServed.isOver_of_isDrained hdrained⟩
    · obtain ⟨hlength, hover⟩ := h.isOver_of_isAtRest hrest
      rw [h.map_fst_runs, hlength]
      exact ⟨rfl, hover⟩

/-- There is no worker.  A thread runs the task that it submits; the run submits another one, which
the thread leaves.  A later submission is folded into that one, and flushing waits for nothing. -/
def stranded : List (Event Nat) :=
  [.submit 1 1, .ask 1, .answer 1 (some 7), .attach 1, .acquire 1, .take 1,
    .submit 1 5, .ask 1, .answer 1 (some 8), .attach 1, .acquire 1, .resume 1,
    .finish 1 false, .settle 1, .giveBack 1, .release 1, .resume 1,
    .submit 2 6, .flush 2]

theorem burst_runs_one_after_another :
    (∃ s, burst.foldlM (step adding) {} = some s ∧ s.isDrained ∧
      s.runs.map Prod.fst = [0, 1] ∧ s.isOver 0 ∧ s.isOver 1) ∧
    ∃ s, stranded.foldlM (step adding) { hasWorker := false } = some s ∧ s.isQuiet ∧
      s.runs = [(0, 1)] ∧ s.left = [1] ∧ s.isOver 0 ∧ ¬ s.isOver 1 ∧
      s.entries.countP (·.waiting.isSome) = 1 := by
  constructor
  · refine ⟨_, rfl, rfl, ?_⟩
    have hreachable := @reachable_of_foldlM _ adding true burst _ rfl
    obtain ⟨-, -, -, -, -, hdrained, -⟩ := runs_one_after_another hreachable
    obtain ⟨hruns, hover⟩ := hdrained (.inl rfl)
    exact ⟨hruns, hover 0 (by decide), hover 1 (by decide)⟩
  · have hend : (stranded.foldlM (step adding) { hasWorker := false }).map
        (fun s => (s.isQuiet, s.runs, s.left, s.isOver 1, s.entries.length,
          s.entries.countP (·.waiting.isSome))) = some (true, [(0, 1)], [1], false, 2, 1) :=
      rfl
    obtain ⟨s, hs, hseen⟩ := Option.map_eq_some_iff.mp hend
    simp only [Prod.mk.injEq] at hseen
    obtain ⟨hquiet, hruns, hleft, hnot, hlength, hwaits⟩ := hseen
    obtain ⟨-, -, -, -, -, -, hover⟩ := runs_one_after_another (reachable_of_foldlM hs)
    have hfirst := (hover hquiet 0 (by omega)).resolve_right (by simp [State.IsStranded, hleft])
    exact ⟨s, hs, hquiet, hruns, hleft, hfirst, by simp [hnot], hwaits⟩

end TrackerGuard.Coalescer
