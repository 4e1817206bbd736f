import Mathlib
import TrackerGuard.Proofs.Artifact.Run
import TrackerGuard.Proofs.Coalescer.Service
import TrackerGuard.Storage.Folder

/-!
# The artifact is fresh once the queue is drained

A request that finds another one waiting adds nothing.  This loses no change, because whatever waits
has not begun to read: its run starts later, and reads all inputs after its start.

After a request some task waits, and when the queue is drained all tasks have been started, so a run
starts in between (`FollowsBy.exists_start`).  From the last such start on, the foreseen outcome of
the run is what the inputs give, and if these do not change, it is what the run leaves.

`Change` lists what a step of a writer does, as `Coalescer.Transition` does for its coalescer.  The
main result, `artifact_is_fresh`, is about an artifact that is replaced in a `Folder`: what a run
leaves is known whether its write succeeds or fails.
-/

namespace TrackerGuard.Writer

variable {ψ φ : Type} [TextFile ψ] [TextFile φ] {w w' : Writer ψ φ}

/-- How many runs were started. -/
def started (w : Writer ψ φ) : Nat := w.requests.runs.length

/-- What an event does, case by case. -/
inductive Change (w : Writer ψ φ) : Event ψ → Writer ψ φ → Prop where
  /-- A run starts. -/
  | start {e : Coalescer.Event WriteRequest} {s : Coalescer.State WriteRequest}
      (hstep : Coalescer.step writePolicy w.requests e = some s)
      (starts : w.started < s.runs.length) :
      Change w (.queue e) ⟨s, { w.desk with draft := .begun }⟩
  /-- The coalescer does something else; a run ends only when nothing is left to do. -/
  | proceed {e : Coalescer.Event WriteRequest} {s : Coalescer.State WriteRequest}
      (hstep : Coalescer.step writePolicy w.requests e = some s)
      (same : s.runs.length = w.started)
      (ends : ∀ t failed, e = .finish t failed → w.desk.draft = .closed) :
      Change w (.queue e) { w with requests := s }
  | work (busy : w.desk.draft ≠ .closed) : Change w .work { w with desk := w.desk.work }
  | list (list : ψ) : Change w (.changeList list) { w with desk := { w.desk with list := list } }
  | safelist (safelist : List String) :
      Change w (.changeSafelist safelist)
        { w with desk := { w.desk with safelist := safelist } }
  | features (features : Features) :
      Change w (.changeFeatures features)
        { w with desk := { w.desk with features := features } }

omit [TextFile ψ] [TextFile φ] in
lemma isIdle_iff : w.isIdle ↔ w.desk.draft = .closed := by
  cases hdraft : w.desk.draft <;> simp [isIdle, hdraft]

/-- A step of the coalescer starts a run or leaves the desk alone. -/
lemma Change.of_queue {e : Coalescer.Event WriteRequest} {s : Coalescer.State WriteRequest}
    (hstep : Coalescer.step writePolicy w.requests e = some s)
    (ends : ∀ t failed, e = .finish t failed → w.desk.draft = .closed) :
    Change w (.queue e)
      (if w.requests.runs.length < s.runs.length then ⟨s, { w.desk with draft := .begun }⟩
      else { w with requests := s }) := by
  split
  next hlt => exact .start hstep hlt
  next hge =>
    have hle := (Coalescer.Transition.of_step hstep).runs_length_le
    exact .proceed hstep (le_antisymm (Nat.le_of_not_lt hge) hle) ends

/-- Every step is one of the changes. -/
theorem Change.of_step {e : Event ψ} (h : w.step e = some w') : Change w e w' := by
  cases e with
  | queue e =>
      cases e with
      | finish t failed =>
          simp only [step] at h
          split at h
          next hidle =>
            obtain ⟨s, hs, rfl⟩ := Option.map_eq_some_iff.mp h
            have hsame : s.runs = w.requests.runs := by
              cases Coalescer.Transition.of_step hs
              rfl
            exact .proceed hs (congrArg List.length hsame) fun _ _ _ => isIdle_iff.mp hidle
          next => cases h
      | _ =>
          obtain ⟨s, hs, rfl⟩ := Option.map_eq_some_iff.mp h
          exact .of_queue hs nofun
  | work =>
      simp only [step] at h
      split at h
      next => cases h
      next hbusy => exact Option.some.inj h ▸ .work fun hclosed => hbusy (isIdle_iff.mpr hclosed)
  | changeList list => exact Option.some.inj h ▸ .list list
  | changeSafelist safelist => exact Option.some.inj h ▸ .safelist safelist
  | changeFeatures features => exact Option.some.inj h ▸ .features features

/-! ## Histories -/

/-- Whether an event leaves what runs read as it is. -/
def Event.IsQuiet : Event ψ → Prop
  | .queue _ | .work => True
  | .changeList _ | .changeSafelist _ | .changeFeatures _ => False

/-- Some history of events of a kind leads from one state to the other. -/
def FollowsBy (allowed : Event ψ → Prop) : Writer ψ φ → Writer ψ φ → Prop :=
  Relation.ReflTransGen fun w w' => ∃ e, allowed e ∧ w.step e = some w'

/-- Some history leads from one state to the other. -/
abbrev Follows : Writer ψ φ → Writer ψ φ → Prop := FollowsBy fun _ => True

/-- Some history leads from one state to the other, in which nothing changes that runs read. -/
abbrev FollowsQuietly : Writer ψ φ → Writer ψ φ → Prop := FollowsBy Event.IsQuiet

lemma started_le_of_step {e : Event ψ} (h : w.step e = some w') : w.started ≤ w'.started := by
  cases Change.of_step h with
  | start _ starts => exact starts.le
  | proceed _ same => exact same.ge
  | _ => exact le_rfl

/-- What a writer does is also something that its coalescer does, if anything. -/
lemma requests_follows_of_step {e : Event ψ} (h : w.step e = some w') :
    Coalescer.Follows writePolicy w.requests w'.requests := by
  cases Change.of_step h with
  | start hstep | proceed hstep => exact .single ⟨_, hstep⟩
  | _ => exact .refl

lemma compile_of_step {e : Event ψ} (hquiet : e.IsQuiet) (h : w.step e = some w') :
    w'.desk.compile = w.desk.compile := by
  cases Change.of_step h with
  | start => exact Desk.compile_congr rfl rfl rfl rfl
  | proceed => rfl
  | work => exact Desk.compile_work w.desk
  | list | safelist | features => cases hquiet

lemma begun_or_started_eq {e : Event ψ} (h : w.step e = some w') :
    w'.desk.draft = .begun ∨ w'.started = w.started := by
  cases Change.of_step h with
  | start => exact .inl rfl
  | proceed _ same => exact .inr same
  | _ => exact .inr rfl

/-- While nothing changes that runs read, a run stays on its way to the same outcome. -/
lemma outcome?_of_step {e : Event ψ} (hquiet : e.IsQuiet) (h : w.step e = some w')
    (hsame : w'.started = w.started) : w'.desk.outcome? = w.desk.outcome? := by
  cases Change.of_step h with
  | start _ starts => exact absurd hsame starts.ne'
  | proceed => rfl
  | work => exact w.desk.outcome?_work
  | list | safelist | features => cases hquiet

/-- Whatever happens, a run stores one compilation over the artifact that it found. -/
lemma isRunOf_of_step {e : Event ψ} {d : Desk ψ φ} (h : w.step e = some w')
    (hsame : w'.started = w.started) (hrun : d.IsRunOf w.desk) : d.IsRunOf w'.desk := by
  cases Change.of_step h with
  | start _ starts => exact absurd hsame starts.ne'
  | proceed => exact hrun
  | work => exact hrun.work
  | list | safelist | features => exact hrun.of_eq rfl rfl rfl

namespace FollowsBy

variable {allowed : Event ψ → Prop}

lemma follows (h : FollowsBy allowed w w') : Follows w w' :=
  Relation.ReflTransGen.mono (fun _ _ ⟨e, _, he⟩ => ⟨e, trivial, he⟩) _ _ h

lemma of_foldlM {es : List (Event ψ)} (hallowed : ∀ e ∈ es, allowed e)
    (h : es.foldlM step w = some w') : FollowsBy allowed w w' := by
  induction es generalizing w with
  | nil => exact Option.some.inj h ▸ .refl
  | cons e es ih =>
      rw [List.foldlM_cons] at h
      obtain ⟨next, hnext, hrest⟩ := Option.bind_eq_some_iff.mp h
      obtain ⟨he, hes⟩ := List.forall_mem_cons.mp hallowed
      exact .head ⟨e, he, hnext⟩ (ih hes hrest)

lemma started_le (h : FollowsBy allowed w w') : w.started ≤ w'.started := by
  induction h with
  | refl => exact le_rfl
  | tail _ hstep ih =>
      obtain ⟨e, -, he⟩ := hstep
      exact ih.trans (started_le_of_step he)

lemma requests_follows (h : FollowsBy allowed w w') :
    Coalescer.Follows writePolicy w.requests w'.requests := by
  induction h with
  | refl => exact .refl
  | tail _ hstep ih =>
      obtain ⟨e, -, he⟩ := hstep
      exact ih.trans (requests_follows_of_step he)

/-- If runs are started, there is a last one: it begins at some time, and no other one is started
after it. -/
lemma exists_start (h : FollowsBy allowed w w') (hlt : w.started < w'.started) :
    ∃ start : Writer ψ φ, FollowsBy allowed w start ∧ start.desk.draft = .begun ∧
      FollowsBy allowed start w' ∧ start.started = w'.started := by
  induction h with
  | refl => exact absurd hlt (lt_irrefl _)
  | tail hbefore hstep ih =>
      obtain ⟨e, hallowed, he⟩ := hstep
      obtain hbegun | hsame := begun_or_started_eq he
      · exact ⟨_, hbefore.tail ⟨e, hallowed, he⟩, hbegun, .refl, rfl⟩
      · obtain ⟨start, hto, hbegun, hfrom, hstarted⟩ := ih (hsame ▸ hlt)
        exact ⟨start, hto, hbegun, hfrom.tail ⟨e, hallowed, he⟩, hstarted.trans hsame.symm⟩

/-- What holds of the desk at one time holds until a run starts, if steps keep it. -/
lemma desk_induction {P : Desk ψ φ → Prop} (h : FollowsBy allowed w w')
    (hsame : w'.started = w.started) (hnow : P w.desk)
    (hkeep : ∀ e v v', allowed e → step v e = some v' → v'.started = v.started →
      P v.desk → P v'.desk) : P w'.desk := by
  induction h with
  | refl => exact hnow
  | tail hbefore hstep ih =>
      obtain ⟨e, hallowed, he⟩ := hstep
      have hle := started_le hbefore
      have hle' := started_le_of_step he
      exact hkeep e _ _ hallowed he (by omega) (ih (by omega))

end FollowsBy

lemma compile_of_followsQuietly (h : FollowsQuietly w w') : w'.desk.compile = w.desk.compile := by
  induction h with
  | refl => rfl
  | tail _ hstep ih =>
      obtain ⟨e, hquiet, he⟩ := hstep
      exact (compile_of_step hquiet he).trans ih

lemma outcome?_of_followsQuietly (h : FollowsQuietly w w') (hsame : w'.started = w.started) :
    w'.desk.outcome? = w.desk.outcome? :=
  h.desk_induction (P := fun d => d.outcome? = w.desk.outcome?) hsame rfl
    fun _ _ _ hquiet hstep hsame hv => (outcome?_of_step hquiet hstep hsame).trans hv

/-! ## When nothing is left to do -/

/-- A run that has something left to do has not come to its end. -/
def IsBusy (w : Writer ψ φ) : Prop :=
  w.desk.draft ≠ .closed → ∃ t i, .running i ∈ w.requests.stack t

lemma IsBusy.step {e : Event ψ} (hbusy : w.IsBusy) (h : w.step e = some w') : w'.IsBusy := by
  intro hdraft
  cases Change.of_step h with
  | start hstep starts =>
      cases Coalescer.Transition.of_step hstep with
      | @start t i => exact ⟨t, i, by rw [Coalescer.stack_put rfl, if_pos rfl]; simp⟩
      | _ => exact absurd starts (lt_irrefl _)
  | proceed hstep _ ends =>
      obtain ⟨t, i, hrunning⟩ := hbusy hdraft
      refine ⟨t, i, (Coalescer.Transition.of_step hstep).running_mem hrunning ?_⟩
      exact fun u failed he => hdraft (ends u failed he)
  | work busy => exact hbusy busy
  | list | safelist | features => exact hbusy hdraft

/-- Once the queue is drained, no run has anything left to do. -/
lemma Follows.closed_of_isDrained {d : Desk ψ φ} (hclosed : d.draft = .closed)
    (h : Follows { desk := d } w) (hdrained : w.requests.isDrained) : w.desk.draft = .closed := by
  have hbusy : w.IsBusy := by
    clear hdrained
    induction h with
    | refl => exact fun hne => absurd hclosed hne
    | tail _ hstep ih =>
        obtain ⟨e, -, he⟩ := hstep
        exact ih.step he
  by_contra hne
  obtain ⟨t, i, hrunning⟩ := hbusy hne
  have hreachable := Coalescer.Reachable.start.of_follows h.requests_follows
  have hmem : i ∈ w.requests.runsOf t := List.mem_filterMap.mpr ⟨_, hrunning, rfl⟩
  rw [hreachable.runsOf_eq_nil_of_isDrained hdrained] at hmem
  cases hmem

/-- A request is served by a run that starts after it. -/
lemma Follows.exists_start_of_request {d : Desk ψ φ} {t : Coalescer.Thread} {w₁ w₂ : Writer ψ φ}
    {allowed : Event ψ → Prop} (h : Follows { desk := d } w)
    (hrequest : w.step (.queue (.submit t ())) = some w₁) (hafter : FollowsBy allowed w₁ w₂)
    (hdrained : w₂.requests.isDrained) :
    ∃ start : Writer ψ φ, FollowsBy allowed w₁ start ∧ start.desk.draft = .begun ∧
      FollowsBy allowed start w₂ ∧ start.started = w₂.started := by
  have hreachable := Coalescer.Reachable.start.of_follows h.requests_follows
  have hwaits : w₁.requests.entries.length = w₁.started + 1 := by
    cases Change.of_step hrequest with
    | start hstep | proceed hstep => exact hreachable.isLedger.length_eq_of_submit (.of_step hstep)
  have hreachable₁ := hreachable.of_follows (requests_follows_of_step hrequest)
  have hreachable₂ := hreachable₁.of_follows hafter.requests_follows
  have hall : w₂.started = w₂.requests.entries.length :=
    hreachable₂.length_eq_of_isDrained hdrained
  have hgrow := Coalescer.Follows.entries_length_le hafter.requests_follows
  exact hafter.exists_start (by omega)

/-- The artifact is fresh once the queue is drained, and a write that fails leaves it alone. -/
theorem artifact_is_fresh {δ : Type} [Folder δ] [LawfulFolder δ] {d : Desk ψ δ}
    (hclosed : d.draft = .closed) :
    (∀ w t w₁ w₂, Follows { desk := d } w → step w (.queue (.submit t ())) = some w₁ →
      FollowsQuietly w₁ w₂ → w₂.requests.isDrained →
      ∃ start, FollowsQuietly w₁ start ∧ start.desk.draft = .begun ∧ FollowsQuietly start w₂ ∧
        start.started = w₂.started ∧ w₂.desk.draft = .closed ∧
        start.desk.Wrote w.desk.compile w₂.desk) ∧
    ∀ start w' : Writer ψ δ, start.desk.draft = .begun → Follows start w' →
      w'.started = start.started → w'.desk.draft = .closed →
      ∃ c, start.desk.Wrote c w'.desk := by
  refine ⟨fun w t w₁ w₂ hw hrequest hafter hdrained => ?_,
    fun start w' hbegun hrun hsame hclosed' => ?_⟩
  · obtain ⟨start, hto, hbegun, hfrom, hlast⟩ := hw.exists_start_of_request hrequest hafter hdrained
    have hreach : Follows { desk := d } w₂ :=
      (hw.tail ⟨_, trivial, hrequest⟩).trans hafter.follows
    have hclosed₂ := hreach.closed_of_isDrained hclosed hdrained
    refine ⟨start, hto, hbegun, hfrom, hlast, hclosed₂, Desk.wrote_of_outcome? hclosed₂ ?_⟩
    have hcompile : start.desk.compile = w.desk.compile :=
      (compile_of_followsQuietly hto).trans (compile_of_step (e := .queue _) trivial hrequest)
    rw [outcome?_of_followsQuietly hfrom hlast.symm, Desk.outcome?, hbegun, hcompile]
  · have hstored : start.desk.IsRunOf w'.desk :=
      hrun.desk_induction hsame (.of_begun hbegun) fun _ v v' _ => isRunOf_of_step
    simp only [Desk.IsRunOf, hclosed'] at hstored
    obtain ⟨c, hc⟩ := hstored
    exact ⟨c, Desk.wrote_of_outcome? hclosed' hc⟩

/-- A desk without a list. -/
def bareDesk : Desk FileCell Shelf where
  resolver := .builtIn
  list := {}
  safelist := ["a.b"]
  features := {}
  artifact := {}

/-- A run fails to load the list, and then a list is there. -/
def disturbance : List (Event FileCell) :=
  [.queue (.submit 1 ()), .queue .receive, .queue (.acquire Coalescer.worker),
    .queue (.take Coalescer.worker), .work, .changeList { content := .text "[\"c.d\"]" }]

/-- The run comes to its end, and another one follows. -/
def aftermath : List (Event FileCell) :=
  [.work, .work, .queue (.finish Coalescer.worker false), .queue (.settle Coalescer.worker),
    .queue (.release Coalescer.worker),
    .queue .receive, .queue (.acquire Coalescer.worker), .queue (.take Coalescer.worker),
    .work, .work, .work, .work, .work, .queue (.finish Coalescer.worker false),
    .queue (.settle Coalescer.worker), .queue (.release Coalescer.worker)]

theorem artifact_is_fresh_after_disturbance :
    ∃ w w₁ w₂ : Writer FileCell Shelf,
      disturbance.foldlM step { desk := bareDesk } = some w ∧
        step w (.queue (.submit 2 ())) = some w₁ ∧ aftermath.foldlM step w₁ = some w₂ ∧
        w₂.requests.isDrained ∧
        ∃ start : Writer FileCell Shelf, start.desk.Wrote w.desk.compile w₂.desk := by
  obtain ⟨w, w₁, w₂, hbefore, hrequest, hafter, hdrained⟩ :
      ∃ w w₁ w₂ : Writer FileCell Shelf,
        disturbance.foldlM step { desk := bareDesk } = some w ∧
          step w (.queue (.submit 2 ())) = some w₁ ∧ aftermath.foldlM step w₁ = some w₂ ∧
          w₂.requests.isDrained :=
    ⟨_, _, _, rfl, rfl, rfl, rfl⟩
  have hquiet : ∀ e ∈ aftermath, e.IsQuiet := by simp [aftermath, Event.IsQuiet]
  obtain ⟨start, -, -, -, -, -, hwrote⟩ := (artifact_is_fresh (d := bareDesk) rfl).1 w 2 w₁ w₂
    (.of_foldlM (fun _ _ => trivial) hbefore) hrequest (.of_foldlM hquiet hafter) hdrained
  exact ⟨w, w₁, w₂, hbefore, hrequest, hafter, hdrained, start, hwrote⟩

end TrackerGuard.Writer
