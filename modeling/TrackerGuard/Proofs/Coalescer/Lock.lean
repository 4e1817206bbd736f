import Mathlib
import TrackerGuard.Proofs.Coalescer.Transition

/-!
# One run at a time

The lock of a coalescer is its `owner`, and four of the frames of a stack stand for having it.
`State.IsLocked` ties the two together: the owner has exactly one such frame on its stack and nobody
else has any.  It holds in every state that a history leads to, although a thread may be asked to
run a task while it runs another one: such a thread does not get the lock a second time, because it
finds itself to be the owner.

So frames with the lock are frames of the owner, there are never two of them (`IsLocked.unique`),
and at most one task runs at any time (`IsLocked.countP_isRunning_le_one`).
-/

namespace TrackerGuard.Coalescer

/-- What a thread is in the middle of while it has the lock. -/
def Frame.holdsLock : Frame → Bool
  | .taking _ | .running _ | .settling _ | .releasing => true
  | _ => false

/-- What a thread is in the middle of while it runs a task. -/
def Frame.isRunning : Frame → Bool
  | .running _ => true
  | _ => false

lemma Frame.holdsLock_of_isRunning {f : Frame} (h : f.isRunning) : f.holdsLock := by
  cases f with
  | running => rfl
  | _ => cases h

variable {α : Type} {p : Policy α} {hasWorker : Bool} {s s' : State α}

/-- The owner of the lock has one frame that stands for it, and nobody else has any. -/
def State.IsLocked (s : State α) : Prop :=
  ∀ t, (s.stack t).countP Frame.holdsLock = if s.owner = some t then 1 else 0

namespace State.IsLocked

/-- A step that replaces the stack of one thread. -/
lemma of_put {t : Thread} {fs : List Frame} (hframes : s'.frames = s.frames.put t fs)
    (hself : fs.countP Frame.holdsLock = if s'.owner = some t then 1 else 0)
    (hother : ∀ u ≠ t,
      (s.stack u).countP Frame.holdsLock = if s'.owner = some u then 1 else 0) :
    s'.IsLocked := by
  intro u
  rw [stack_put hframes]
  by_cases hu : u = t
  · rw [if_pos hu, hu]
    exact hself
  · rw [if_neg hu]
    exact hother u hu

/-- A step that keeps the owner and the number of frames with the lock. -/
lemma put (h : s.IsLocked) {t : Thread} {fs : List Frame}
    (hframes : s'.frames = s.frames.put t fs) (howner : s'.owner = s.owner)
    (hcount : fs.countP Frame.holdsLock = (s.stack t).countP Frame.holdsLock) : s'.IsLocked :=
  of_put hframes (by rw [hcount, howner, h t]) fun u _ => by rw [howner, h u]

lemma of_frames_eq (h : s.IsLocked) (hframes : s'.frames = s.frames)
    (howner : s'.owner = s.owner) : s'.IsLocked := by
  intro t
  rw [State.stack, hframes, howner]
  exact h t

lemma owner_eq_of_mem (h : s.IsLocked) {t : Thread} {f : Frame} (hf : f ∈ s.stack t)
    (hlock : f.holdsLock) : s.owner = some t := by
  have hcount := h t
  by_contra hne
  rw [if_neg hne, List.countP_eq_zero] at hcount
  exact hcount f hf hlock

/-- There is one frame with the lock at most. -/
lemma unique (h : s.IsLocked) {t u : Thread} {f g : Frame} (hf : f ∈ s.stack t)
    (hg : g ∈ s.stack u) (hflock : f.holdsLock) (hglock : g.holdsLock) : t = u ∧ f = g := by
  have howner := h.owner_eq_of_mem hf hflock
  have hsame : t = u := Option.some.inj (howner.symm.trans (h.owner_eq_of_mem hg hglock))
  subst hsame
  refine ⟨rfl, ?_⟩
  have hcount := h t
  rw [if_pos howner, List.countP_eq_length_filter, List.length_eq_one_iff] at hcount
  obtain ⟨one, hone⟩ := hcount
  have hmemf : f ∈ [one] := hone ▸ List.mem_filter.mpr ⟨hf, hflock⟩
  have hmemg : g ∈ [one] := hone ▸ List.mem_filter.mpr ⟨hg, hglock⟩
  rw [List.mem_singleton.mp hmemf, List.mem_singleton.mp hmemg]

lemma start : ({ hasWorker := hasWorker } : State α).IsLocked := by
  intro t
  simp [State.stack, Frames.of]

/-- Steps keep the lock and its frames together. -/
lemma step {e : Event α} (h : s.IsLocked) (hstep : Transition p s e s') : s'.IsLocked := by
  cases hstep with
  | fold | flushAlone | closeAlone => exact h.of_frames_eq rfl rfl
  | register => exact h.put rfl rfl (by simp [Frame.holdsLock])
  | registerAlone => exact h.put rfl rfl (by simp [Frame.holdsLock])
  | ask top => exact h.put rfl rfl (by simp [top, Frame.holdsLock])
  | refuse top => exact h.put rfl rfl (by simp [top, Frame.holdsLock])
  | grant top => exact h.put rfl rfl (by simp [top, Frame.holdsLock])
  | attachLate top => exact h.put rfl rfl (by simp [top, Frame.holdsLock])
  | attach top => exact h.put rfl rfl (by simp [top, Frame.holdsLock])
  | expire => exact h.put rfl rfl (by simp [Frame.holdsLock])
  | receiveRun idle => exact h.put rfl rfl (by simp [idle, Frame.holdsLock])
  | receiveFlush => exact h.of_frames_eq rfl rfl
  | @acquire t i rest top free =>
      -- Nobody had the lock, so no stack had a frame for it; now one has.
      have hnone (u : Thread) : (s.stack u).countP Frame.holdsLock = 0 := by simp [h u, free]
      refine of_put (s := s) rfl ?_ fun u hu => ?_
      · have hrest := hnone t
        rw [top, List.countP_cons_of_neg (by simp [Frame.holdsLock])] at hrest
        rw [if_pos rfl, List.countP_cons_of_pos rfl, hrest]
      · rw [if_neg (by simpa using Ne.symm hu), hnone u]
  | leave top => exact h.put rfl rfl (by simp [top, Frame.holdsLock])
  | start top => exact h.put rfl rfl (by simp [top, List.countP_cons, Frame.holdsLock])
  | miss top => exact h.put rfl rfl (by simp [top, List.countP_cons, Frame.holdsLock])
  | finish top => exact h.put rfl rfl (by simp [top, List.countP_cons, Frame.holdsLock])
  | settleGranted top => exact h.put rfl rfl (by simp [top, List.countP_cons, Frame.holdsLock])
  | settle top => exact h.put rfl rfl (by simp [top, List.countP_cons, Frame.holdsLock])
  | giveBack top => exact h.put rfl rfl (by simp [top, Frame.holdsLock])
  | @release t rest top =>
      -- The frame that goes was the only one.
      have howner : s.owner = some t := h.owner_eq_of_mem (top ▸ List.mem_cons_self) rfl
      refine of_put (s := s) rfl ?_ fun u hu => ?_
      · have hcount := h t
        rw [top, List.countP_cons_of_pos rfl, if_pos howner] at hcount
        rw [if_neg (by simp)]
        omega
      · rw [h u, howner, if_neg (by simpa using Ne.symm hu), if_neg (by simp)]
  | flush => exact h.put rfl rfl (by simp [Frame.holdsLock])
  | resume top => exact h.put rfl rfl (by simp [top, Frame.holdsLock])
  | resumeJoined top => exact h.put rfl rfl (by simp [top, Frame.holdsLock])
  | returned top => exact h.put rfl rfl (by simp [top, Frame.holdsLock])
  | close => exact h.put rfl rfl (by simp [Frame.holdsLock])

end State.IsLocked

theorem Reachable.isLocked (h : Reachable p hasWorker s) : s.IsLocked := by
  induction h with
  | start => exact .start
  | next _ _ hstep ih => exact ih.step (.of_step hstep)

/-! ## Counting over all threads -/

/-- If one thread at most has a frame of some kind, and no more than one, there is one at most. -/
lemma countP_flatten_le {q : Frame → Bool} {frames : Frames} {owner : Option Thread}
    (h : ∀ t, (frames.of t).countP q = if owner = some t then 1 else 0) :
    frames.flatten.countP q ≤ if owner.isSome then 1 else 0 := by
  induction frames generalizing owner with
  | nil => simp
  | cons fs rest ih =>
      have hfirst : fs.countP q = if owner = some 0 then 1 else 0 := h 0
      have hrest (t : Thread) :
          (Frames.of rest t).countP q = if owner = some (t + 1) then 1 else 0 :=
        h (t + 1)
      rw [List.flatten_cons, List.countP_append, hfirst]
      match owner with
      | none => simpa using @ih none fun t => by simpa using hrest t
      | some 0 => simpa using @ih none fun t => by simpa using hrest t
      | some (u + 1) => simpa using @ih (some u) fun t => by simpa using hrest t

/-- At most one task runs at any time. -/
theorem State.IsLocked.countP_isRunning_le_one (h : s.IsLocked) :
    s.frames.flatten.countP Frame.isRunning ≤ 1 := by
  have hlock : s.frames.flatten.countP Frame.holdsLock ≤ 1 := by
    have hle := countP_flatten_le (q := Frame.holdsLock) h
    split at hle <;> omega
  have hmono := List.countP_mono_left (l := s.frames.flatten) fun f _ =>
    Frame.holdsLock_of_isRunning (f := f)
  exact hmono.trans hlock

end TrackerGuard.Coalescer
