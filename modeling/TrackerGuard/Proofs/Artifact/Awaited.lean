import Mathlib
import TrackerGuard.Proofs.Artifact.Freshness
import TrackerGuard.Proofs.Coalescer.Barrier

/-!
# One write that is waited for

A command asks for one write, waits for it and looks at the report.  The write is the work of
another thread, and `Awaited` allows all orders in which the threads may go on meanwhile.  The
command always finds the same: what a run stores that nothing disturbs
(`Awaited.report_and_artifact_eq`).

There is one submission, so one run is started at most, and the flush is a barrier behind it
(`Coalescer.Follows.isOver_of_flush`).  Until the run starts, the desk is as it was; from then on,
the foreseen outcome of the run is the same after each step (`IsServing`).
-/

namespace TrackerGuard

namespace Writer

variable {ψ φ : Type}

/-- Whether an event serves requests: nothing is submitted, and nothing changes that runs read. -/
def Event.IsService : Event ψ → Prop
  | .queue (.submit _ _) => False
  | .queue _ | .work => True
  | .changeList _ | .changeSafelist _ | .changeFeatures _ => False

variable [TextFile ψ] [TextFile φ] {d : Desk ψ φ} {w w' : Writer ψ φ}

/-- The caller has asked for a write, waited and gone on, while requests were served in some way;
this may still be so long after it went on. -/
def Awaited (w w' : Writer ψ φ) : Prop :=
  ∃ w₁ w₂ w₃ : Writer ψ φ, w.step (.queue (.submit caller ())) = some w₁ ∧
    FollowsBy Event.IsService w₁ w₂ ∧ w₂.step (.queue (.flush caller)) = some w₃ ∧
    FollowsBy Event.IsService w₃ w' ∧ .awaiting w₂.requests.tickets ∉ w'.requests.stack caller

/-! ## Nothing else can be found -/

/-- One task is registered for the inputs of a desk.  Before its run the desk is as it was, and then
the run is on its way to the outcome that they give. -/
structure IsServing (d : Desk ψ φ) (w : Writer ψ φ) : Prop where
  reachable : Coalescer.Reachable writePolicy true w.requests
  isBusy : w.IsBusy
  entries_length : w.requests.entries.length = 1
  desk_eq : w.started = 0 → w.desk = d
  outcome? : w.started ≠ 0 → w.desk.outcome? = some (d.store d.compile)

omit [TextFile ψ] [TextFile φ] in
/-- Serving requests registers no task. -/
lemma entries_length_of_isService {e : Coalescer.Event WriteRequest}
    {s s' : Coalescer.State WriteRequest} (he : (Event.queue e : Event ψ).IsService)
    (h : Coalescer.Transition writePolicy s e s') : s'.entries.length = s.entries.length := by
  cases h with
  | fold | register | registerAlone => cases he
  | attach | start | settleGranted | settle => exact List.length_modify _ _ _
  | _ => rfl

namespace IsServing

lemma of_submit (hclosed : d.draft = .closed)
    (h : step { desk := d } (.queue (.submit caller ())) = some w) : IsServing d w := by
  have hw := Option.some.inj h
  subst hw
  exact
    { reachable := .next (.submit caller ()) .start rfl
      isBusy := fun hne => absurd hclosed hne
      entries_length := rfl
      desk_eq := fun _ => rfl
      outcome? := fun hne => absurd rfl hne }

lemma started_le (h : IsServing d w) : w.started ≤ 1 :=
  h.entries_length ▸ h.reachable.isLedger.runs_length_le

lemma step {e : Event ψ} (h : IsServing d w) (hclosed : d.draft = .closed) (he : e.IsService)
    (hstep : w.step e = some w') : IsServing d w' := by
  have hreachable := h.reachable.of_follows (requests_follows_of_step hstep)
  have hbusy := h.isBusy.step hstep
  cases Change.of_step hstep with
  | @start e s hqueue starts =>
      have hlength := (entries_length_of_isService he (.of_step hqueue)).trans h.entries_length
      -- With one task only, this is the first run.
      have hruns : s.runs.length ≤ 1 := hlength ▸ hreachable.isLedger.runs_length_le
      obtain rfl := h.desk_eq (by omega)
      exact ⟨hreachable, hbusy, hlength, fun hzero => absurd hzero (Nat.ne_zero_of_lt starts),
        fun _ => rfl⟩
  | proceed hqueue same =>
      have hlength := (entries_length_of_isService he (.of_step hqueue)).trans h.entries_length
      exact ⟨hreachable, hbusy, hlength, fun hzero => h.desk_eq (same ▸ hzero),
        fun hne => h.outcome? (same ▸ hne)⟩
  | work busy =>
      refine ⟨hreachable, hbusy, h.entries_length, fun hzero => ?_, fun hne => ?_⟩
      · exact absurd (h.desk_eq hzero ▸ hclosed) busy
      · exact w.desk.outcome?_work.trans (h.outcome? hne)
  | list | safelist | features => cases he

lemma follows (h : IsServing d w) (hclosed : d.draft = .closed)
    (hlater : FollowsBy Event.IsService w w') : IsServing d w' := by
  induction hlater with
  | refl => exact h
  | tail _ hstep ih =>
      obtain ⟨e, he, hstep⟩ := hstep
      exact ih.step hclosed he hstep

/-- Once the task is over, its run has nothing left to do. -/
lemma closed_of_isOver (h : IsServing d w) (hover : w.requests.isOver 0) :
    w.desk.draft = .closed := by
  by_contra hne
  obtain ⟨t, i, hrunning⟩ := h.isBusy hne
  have hmem : i ∈ w.requests.runsOf t := List.mem_filterMap.mpr ⟨_, hrunning, rfl⟩
  have hlt := (h.reachable.isOrdered.lt_of_mem t i hmem).trans_le h.started_le
  obtain rfl := Nat.lt_one_iff.mp hlt
  exact h.reachable.isOrdered.not_isOver_of_mem t 0 hmem hover

end IsServing

/-- The run is over, with the outcome of a run that nothing disturbed. -/
lemma Awaited.closed_and_outcome? (hclosed : d.draft = .closed) (h : Awaited { desk := d } w) :
    w.desk.draft = .closed ∧ w.desk.outcome? = some (d.store d.compile) := by
  obtain ⟨w₁, w₂, w₃, hsubmit, hbefore, hflush, hafter, hreturned⟩ := h
  have hserving₂ := (IsServing.of_submit hclosed hsubmit).follows hclosed hbefore
  have hserving₃ := hserving₂.step hclosed (by trivial) hflush
  have hserving := hserving₃.follows hclosed hafter
  have hover : w.requests.isOver 0 := by
    have hqueue : Coalescer.step writePolicy w₂.requests (.flush caller) = some w₃.requests := by
      cases Change.of_step hflush with
      | start hqueue | proceed hqueue => exact hqueue
    refine hafter.requests_follows.isOver_of_flush hserving₂.reachable hqueue hreturned 0 ?_
    rw [hserving₂.entries_length]
    exact Nat.one_pos
  have hstarted : w.started ≠ 0 :=
    Nat.ne_zero_of_lt (hserving.reachable.isOrdered.lt_of_isOver 0 hover)
  exact ⟨hserving.closed_of_isOver hover, hserving.outcome? hstarted⟩

/-- The caller finds the report of such a run, and its artifact. -/
theorem Awaited.report_and_artifact_eq (hclosed : d.draft = .closed)
    (h : Awaited { desk := d } w) :
    w.desk.report = some (d.store d.compile).1 ∧ w.desk.artifact = (d.store d.compile).2 := by
  obtain ⟨hclosed', houtcome⟩ := h.closed_and_outcome? hclosed
  simp only [Desk.outcome?, hclosed', Option.map_eq_some_iff, Prod.ext_iff] at houtcome
  obtain ⟨r, hreport, hr, hartifact⟩ := houtcome
  exact ⟨hr ▸ hreport, hartifact⟩

/-- The artifact was replaced by the rules for the desk, or it is as it was. -/
theorem Awaited.wrote [LawfulTextFile φ] (hclosed : d.draft = .closed)
    (h : Awaited { desk := d } w) : d.Wrote d.compile w.desk := by
  obtain ⟨hclosed', houtcome⟩ := h.closed_and_outcome? hclosed
  exact Desk.wrote_of_outcome? hclosed' houtcome

/-! ## What runs without disturbance do -/

/-- A run may do its steps, if it has any left. -/
lemma followsBy_work (s : Coalescer.State WriteRequest) (d : Desk ψ φ) :
    FollowsBy Event.IsService ⟨s, d⟩ ⟨s, d.work⟩ := by
  by_cases hclosed : d.draft = .closed
  · have hsame : d.work = d := by simp only [Desk.work, hclosed]
    rw [hsame]
    exact .refl
  · have hbusy : ¬ isIdle ⟨s, d⟩ := fun hidle => hclosed (isIdle_iff.mp hidle)
    exact .single ⟨.work, trivial, if_neg hbusy⟩

lemma followsBy_workThrough (s : Coalescer.State WriteRequest) (d : Desk ψ φ) :
    FollowsBy Event.IsService ⟨s, { d with draft := .begun }⟩ ⟨s, d.workThrough⟩ :=
  ((((followsBy_work s _).trans (followsBy_work s _)).trans (followsBy_work s _)).trans
    (followsBy_work s _)).trans (followsBy_work s _)

lemma draft_workThrough (d : Desk ψ φ) : d.workThrough.draft = .closed := by
  cases hlist : TrackerList.ofFile d.list with
  | ok domains => simp only [Desk.workThrough, Desk.work, hlist]
  | error fault => simp only [Desk.workThrough, Desk.work, hlist]

/-- Between runs, what the coalescer does without starting one leaves the desk alone. -/
lemma step_queue_of_closed {e : Coalescer.Event WriteRequest}
    {s s' : Coalescer.State WriteRequest} (hclosed : d.draft = .closed)
    (h : Coalescer.step writePolicy s e = some s') (hruns : s'.runs.length = s.runs.length) :
    step ⟨s, d⟩ (.queue e) = some ⟨s', d⟩ := by
  cases e with
  | finish t failed =>
      have hidle : isIdle ⟨s, d⟩ := isIdle_iff.mpr hclosed
      simp only [step, if_pos hidle, h, Option.map_some]
  | _ => simp only [step, h, Option.map_some, hruns, lt_irrefl, if_false]

lemma followsBy_of_foldlM {es : List (Coalescer.Event WriteRequest)}
    {s s' : Coalescer.State WriteRequest} (hclosed : d.draft = .closed)
    (hes : ∀ e ∈ es, (Event.queue e : Event ψ).IsService)
    (h : es.foldlM (Coalescer.step writePolicy) s = some s')
    (hruns : s'.runs.length = s.runs.length) : FollowsBy Event.IsService ⟨s, d⟩ ⟨s', d⟩ := by
  induction es generalizing s with
  | nil => exact Option.some.inj h ▸ .refl
  | cons e es ih =>
      rw [List.foldlM_cons] at h
      obtain ⟨next, hnext, hrest⟩ := Option.bind_eq_some_iff.mp h
      obtain ⟨he, hes⟩ := List.forall_mem_cons.mp hes
      have hle := (Coalescer.Transition.of_step hnext).runs_length_le
      have hle' := (Coalescer.follows_of_foldlM es hrest).runs_length_le
      have hstep := step_queue_of_closed hclosed hnext (by omega)
      exact .head ⟨_, he, hstep⟩ (ih hes hrest (by omega))

/-- The caller asks the platform for time. -/
def asking : List (Coalescer.Event WriteRequest) := [.ask caller, .answer caller none]

/-- The worker gets ready for the run. -/
def preparing : List (Coalescer.Event WriteRequest) := [.receive, .acquire Coalescer.worker]

/-- The run is over, and the caller goes on. -/
def concluding : List (Coalescer.Event WriteRequest) :=
  [.finish Coalescer.worker false, .settle Coalescer.worker, .release Coalescer.worker, .receive,
    .resume caller]

/-- The caller can come to an end of its waiting. -/
lemma exists_awaited (hclosed : d.draft = .closed) :
    ∃ s, Awaited { desk := d } ⟨s, d.workThrough⟩ := by
  obtain ⟨s₁, s₂, s₃, s₄, s₅, s₆, hsubmit, hask, hflush, hprepare, htake, hconclude, hreturned,
      hruns₁, hruns₂, hruns₃, hruns₄, hruns₅, hruns₆⟩ :
      ∃ s₁ s₂ s₃ s₄ s₅ s₆ : Coalescer.State WriteRequest,
        Coalescer.step writePolicy {} (.submit caller ()) = some s₁ ∧
          asking.foldlM (Coalescer.step writePolicy) s₁ = some s₂ ∧
          Coalescer.step writePolicy s₂ (.flush caller) = some s₃ ∧
          preparing.foldlM (Coalescer.step writePolicy) s₃ = some s₄ ∧
          Coalescer.step writePolicy s₄ (.take Coalescer.worker) = some s₅ ∧
          concluding.foldlM (Coalescer.step writePolicy) s₅ = some s₆ ∧
          .awaiting s₂.tickets ∉ s₆.stack caller ∧ s₁.runs.length = 0 ∧ s₂.runs.length = 0 ∧
          s₃.runs.length = 0 ∧ s₄.runs.length = 0 ∧ s₅.runs.length = 1 ∧ s₆.runs.length = 1 :=
    ⟨_, _, _, _, _, _, rfl, rfl, rfl, rfl, rfl, rfl, by decide, rfl, rfl, rfl, rfl, rfl, rfl⟩
  have hbegin : step ⟨s₄, d⟩ (.queue (.take Coalescer.worker)) =
      some ⟨s₅, { d with draft := .begun }⟩ := by
    simp [step, htake, hruns₄, hruns₅]
  have hclosed' := draft_workThrough d
  refine ⟨s₆, ⟨s₁, d⟩, ⟨s₂, d⟩, ⟨s₃, d⟩, step_queue_of_closed hclosed hsubmit hruns₁, ?_,
    step_queue_of_closed hclosed hflush (by omega), ?_, hreturned⟩
  · exact followsBy_of_foldlM hclosed (by simp [asking, Event.IsService]) hask (by omega)
  · have hready : FollowsBy Event.IsService ⟨s₃, d⟩ ⟨s₄, d⟩ :=
      followsBy_of_foldlM hclosed (by simp [preparing, Event.IsService]) hprepare (by omega)
    have hdone : FollowsBy Event.IsService ⟨s₅, d.workThrough⟩ ⟨s₆, d.workThrough⟩ :=
      followsBy_of_foldlM hclosed' (by simp [concluding, Event.IsService]) hconclude (by omega)
    exact ((hready.tail ⟨_, by trivial, hbegin⟩).trans (followsBy_workThrough s₅ d)).trans hdone

/-- The schedule of the command lets the run do all of its steps at once. -/
lemma regenerate_desk (d : Desk ψ φ) : (regenerate { desk := d } 1).desk = d.workThrough := by
  cbv

end Writer

end TrackerGuard
