import Mathlib
import TrackerGuard.Proofs.Coalescer.Accounts

/-!
# Whose grants are whose

A grant is handed out for a task.  On its way through the threads it stays the grant of that task:
the thread that submits the task tells it to that task, and whoever takes it from there gives it
back after the task is over.  `State.Warrants` says so of what a thread is in the middle of, and
`State.IsWarranted` of everything that knows of a grant.

A grant that comes while the task runs is attached to it, because the task is not over then; one
that comes later is given back by the thread that submitted the task.
-/

namespace TrackerGuard.Coalescer

variable {α : Type} {p : Policy α} {hasWorker : Bool} {s s' : State α}

/-! ## Whose grants are whose -/

/-- What a frame says about a grant is true: a task is told the grant that was handed out for it,
and a grant that is given back is that of a task that is over. -/
def State.Warrants (s : State α) : Frame → Prop
  | .granted i g => (g, i) ∈ s.grants
  | .ending g => ∃ i, (g, i) ∈ s.grants ∧ s.isOver i
  | _ => True

lemma State.Warrants.mono {f : Frame} (hgrants : s.grants ⊆ s'.grants)
    (hover : ∀ i, s.isOver i → s'.isOver i) (h : s.Warrants f) : s'.Warrants f := by
  cases f with
  | granted i g => exact hgrants h
  | ending g =>
      obtain ⟨i, hi, hiover⟩ := h
      exact ⟨i, hgrants hi, hover i hiover⟩
  | _ => trivial

lemma lt_of_grantOf? {i g : Nat} (h : s.grantOf? i = some g) : i < s.entries.length := by
  obtain ⟨e, he, -⟩ := Option.bind_eq_some_iff.mp h
  exact (List.getElem?_eq_some_iff.mp he).1

/-- Grants differ, they are where they belong, and those that are given back are those of tasks that
are over. -/
structure State.IsWarranted (s : State α) : Prop where
  nodup : (s.grants.map Prod.fst).Nodup
  frames : ∀ t, ∀ f ∈ s.stack t, s.Warrants f
  entries : ∀ i g, s.grantOf? i = some g → (g, i) ∈ s.grants ∧ ¬ s.isOver i
  ended : ∀ g ∈ s.ended, s.Warrants (.ending g)

namespace State.IsWarranted

lemma start : ({ hasWorker := hasWorker } : State α).IsWarranted where
  nodup := List.nodup_nil
  frames t f hf := by simp [State.stack, Frames.of] at hf
  entries i g hg := by simp [State.grantOf?] at hg
  ended g hg := by simp at hg

/-- Steps hand out new grants only. -/
lemma nodup_step {e : Event α} (h : s.IsWarranted) (hstep : Transition p s e s') :
    (s'.grants.map Prod.fst).Nodup := by
  cases hstep with
  | @grant t i g rest top fresh =>
      have hnew : g ∉ s.grants.map Prod.fst := by
        rw [List.any_eq_false] at fresh
        intro hg
        obtain ⟨r, hr, rfl⟩ := List.mem_map.mp hg
        exact fresh r hr (beq_self_eq_true _)
      rw [List.map_append, List.map_singleton]
      exact List.nodup_append_comm.mp (List.nodup_cons.mpr ⟨hnew, h.nodup⟩)
  | _ => exact h.nodup

lemma frames_put (h : s.IsWarranted) (hmono : ∀ f, s.Warrants f → s'.Warrants f) {t : Thread}
    {fs : List Frame} (hframes : s'.frames = s.frames.put t fs)
    (hfs : ∀ f ∈ fs, f ∈ s.stack t ∨ s'.Warrants f) : ∀ u, ∀ f ∈ s'.stack u, s'.Warrants f := by
  intro u f hf
  rw [stack_put hframes] at hf
  split at hf
  next => exact (hfs f hf).elim (fun hf => hmono f (h.frames t f hf)) id
  next => exact hmono f (h.frames u f hf)

/-- A step puts grants where they belong. -/
lemma frames_step {e : Event α} (h : s.IsWarranted) (hstep : Transition p s e s') :
    ∀ t, ∀ f ∈ s'.stack t, s'.Warrants f := by
  have hmono (f : Frame) (hf : s.Warrants f) : s'.Warrants f :=
    hf.mono hstep.grants_subset hstep.isOver_mono
  cases hstep with
  | fold | receiveFlush | flushAlone | closeAlone => exact fun t f hf => hmono f (h.frames t f hf)
  | register | registerAlone | expire | flush | close =>
      exact h.frames_put hmono rfl (by simp +contextual [State.Warrants])
  | receiveRun => exact h.frames_put hmono rfl (by simp [State.Warrants])
  | grant top => exact h.frames_put hmono rfl (by simp +contextual [State.Warrants, top])
  | attachLate top isOver =>
      have hmem := h.frames _ _ (top ▸ List.mem_cons_self)
      have hnew := hmono (.ending _) ⟨_, hmem, isOver⟩
      refine h.frames_put hmono rfl fun f hf => ?_
      obtain rfl | hf := List.mem_cons.mp hf
      · exact .inr hnew
      · exact .inl (top ▸ List.mem_cons_of_mem _ hf)
  | @settleGranted t i g rest top has =>
      have hlt := lt_of_grantOf? has
      refine h.frames_put hmono rfl fun f hf => ?_
      obtain rfl | hf := List.mem_cons.mp hf
      · exact .inr ⟨i, (h.entries i g has).1,
          (isOver_modify_finished rfl (fun _ => rfl) hlt i).mpr (.inl rfl)⟩
      · obtain rfl | hf := List.mem_cons.mp hf
        · exact .inr trivial
        · exact .inl (top ▸ List.mem_cons_of_mem _ hf)
  | ask top | refuse top | attach top | acquire top | leave top | start top
  | miss top | finish top | settle top | giveBack top | release top
  | resume top | resumeJoined top | returned top =>
      exact h.frames_put hmono rfl (by simp +contextual [top, State.Warrants])

lemma entries_of_eq (h : s.IsWarranted) (hgrants : s.grants ⊆ s'.grants)
    (hgrant : ∀ i, s'.grantOf? i = s.grantOf? i) (hover : ∀ i, s'.isOver i = s.isOver i) :
    ∀ i g, s'.grantOf? i = some g → (g, i) ∈ s'.grants ∧ ¬ s'.isOver i := by
  intro i g hg
  rw [hgrant] at hg
  rw [hover]
  exact (h.entries i g hg).imp_left fun hmem => hgrants hmem

/-- A task that is not over is told the grant that was handed out for it. -/
lemma entries_attach (h : s.IsWarranted) {i g : Nat} {f : Entry α → Entry α}
    (hentries : s'.entries = s.entries.modify i f) (hf : ∀ e, (f e).grant = some g)
    (hfinished : ∀ e, (f e).finished = e.finished) (hgrants : s'.grants = s.grants)
    (hmem : (g, i) ∈ s.grants) (hover : ¬ s.isOver i) :
    ∀ j k, s'.grantOf? j = some k → (k, j) ∈ s'.grants ∧ ¬ s'.isOver j := by
  intro j k hk
  rw [grantOf?_modify_const hentries hf] at hk
  rw [hgrants, isOver_modify hentries hfinished]
  split at hk
  next hj =>
    obtain ⟨-, -, hgk⟩ := Option.bind_eq_some_iff.mp hk
    obtain rfl := Option.some.inj hgk
    exact ⟨hj ▸ hmem, hj ▸ hover⟩
  next => exact h.entries j k hk

/-- A task that is marked finished has no grant, and the others keep what they have. -/
lemma entries_settle (h : s.IsWarranted) {i : Nat} {f : Entry α → Entry α}
    (hentries : s'.entries = s.entries.modify i f) (hf : ∀ e, (f e).grant = none)
    (hgrants : s'.grants = s.grants) :
    ∀ j g, s'.grantOf? j = some g → (g, j) ∈ s'.grants ∧ ¬ s'.isOver j := by
  intro j g hg
  rw [grantOf?_modify_const hentries hf] at hg
  split at hg
  next => simp at hg
  next hj =>
    rw [hgrants, State.isOver, hentries, List.getElem?_modify_ne _ _ (Ne.symm hj)]
    exact h.entries j g hg

/-- What tasks have is theirs, and they are not over. -/
lemma entries_step {e : Event α} (h : s.IsWarranted) (hstep : Transition p s e s') :
    ∀ i g, s'.grantOf? i = some g → (g, i) ∈ s'.grants ∧ ¬ s'.isOver i := by
  have hgrants := hstep.grants_subset
  cases hstep with
  | fold | start =>
      exact h.entries_of_eq hgrants (grantOf?_modify rfl fun _ => rfl)
        (isOver_modify rfl fun _ => rfl)
  | register | registerAlone =>
      exact h.entries_of_eq hgrants (grantOf?_append rfl) (isOver_append rfl)
  | attach top isOver =>
      have hmem := h.frames _ _ (top ▸ List.mem_cons_self)
      exact h.entries_attach rfl (fun _ => rfl) (fun _ => rfl) rfl hmem
        (Bool.eq_false_iff.mp isOver)
  | settle | settleGranted => exact h.entries_settle rfl (fun _ => rfl) rfl
  | _ => exact h.entries_of_eq hgrants (fun _ => rfl) fun _ => rfl

lemma step {e : Event α} (h : s.IsWarranted)
    (hstep : Transition p s e s') : s'.IsWarranted where
  nodup := h.nodup_step hstep
  frames := h.frames_step hstep
  entries := h.entries_step hstep
  ended g hg := by
    have hmono (f : Frame) (hf : s.Warrants f) : s'.Warrants f :=
      hf.mono hstep.grants_subset hstep.isOver_mono
    cases hstep with
    | giveBack top =>
      obtain hg | hg := List.mem_append.mp hg
      · exact hmono _ (h.ended g hg)
      · obtain rfl := List.mem_singleton.mp hg
        exact hmono _ (h.frames _ _ (top ▸ List.mem_cons_self))
    | _ => exact hmono _ (h.ended g hg)

end State.IsWarranted

theorem Reachable.isWarranted (h : Reachable p hasWorker s) : s.IsWarranted := by
  induction h with
  | start => exact .start
  | next _ _ hstep ih => exact ih.step (.of_step hstep)

end TrackerGuard.Coalescer
