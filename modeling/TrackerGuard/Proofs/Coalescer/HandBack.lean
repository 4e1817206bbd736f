import Mathlib
import TrackerGuard.Proofs.Coalescer.Service
import TrackerGuard.Proofs.Coalescer.Warrants

/-!
# Giving a grant back keeps the worker waiting

When the worker has drained its queue, all tasks are over.  Are their grants given back by then?  A
thread that ran a task gives the grant back before it releases the lock.  If it is not the worker,
the worker has still to look at the task, for which it needs the lock: until then the task is in the
queue or with the worker (`State.IsUnserved`).

`State.HandsBack` relates neighbours on a stack: what stands directly on the release of the lock is
the return of a grant whose task the worker has not served.  It is not a submission, because the
coalescer is called by a thread that does something else or is in the middle of a run.  So a late
grant, which is given back by the thread that submitted the task, never gets to that place.
-/

namespace TrackerGuard.Coalescer

variable {α : Type} {p : Policy α} {hasWorker : Bool} {s s' : State α}

/-- While another thread has the lock, the worker serves nothing. -/
lemma Reachable.isUnserved_step (h : Reachable p true s) {e : Event α} (hstep : Transition p s e s')
    {t : Thread} (ht : t ≠ worker) (hown : s.owner = some t) {i : Nat} (hi : s.IsUnserved i) :
    s'.IsUnserved i := by
  refine (hi.step h.isLocked h.isLedger h.isOrdered h.hasWorker_eq hstep).resolve_right ?_
  rintro ⟨hworker, -⟩
  exact ht (Option.some.inj (hown.symm.trans hworker))

/-! ## What stands on the release of the lock -/

/-- What may stand directly on the release of the lock: no submission, and the return of a grant
only while the worker has not served its task. -/
def State.HandsBack (s : State α) (above below : Frame) : Prop :=
  below = .releasing → above.submits? = none ∧
    ∀ g, above = .ending g → ∃ i, (g, i) ∈ s.grants ∧ s.IsUnserved i

lemma handsBack_of_plain {f : Frame} (hsubmits : f.submits? = none) (hcarries : f.carries? = none)
    (below : Frame) : s.HandsBack f below := by
  refine fun _ => ⟨hsubmits, fun g hg => ?_⟩
  subst hg
  cases hcarries

lemma isChain_cons_of_plain {f : Frame} {fs : List Frame} (hsubmits : f.submits? = none)
    (hcarries : f.carries? = none) (h : fs.IsChain s.HandsBack) :
    (f :: fs).IsChain s.HandsBack :=
  List.isChain_cons.mpr ⟨fun below _ => handsBack_of_plain hsubmits hcarries below, h⟩

/-- Whatever takes the place of a submission does not stand on a release of the lock. -/
lemma isChain_cons_of_submits {f f' : Frame} {i : Nat} {fs : List Frame}
    (hsubmits : f.submits? = some i) (h : (f :: fs).IsChain s.HandsBack) :
    (f' :: fs).IsChain s.HandsBack := by
  refine h.imp_head fun hbelow hreleasing => ?_
  have hnone := (hbelow hreleasing).1
  rw [hsubmits] at hnone
  cases hnone

/-- What is above a release of the lock keeps the worker from serving its task. -/
def State.IsHandedBack (s : State α) : Prop :=
  ∀ t ≠ worker, (s.stack t).IsChain s.HandsBack

namespace State.IsHandedBack

lemma start : ({ hasWorker := hasWorker } : State α).IsHandedBack := fun t _ => by
  simp [State.stack, Frames.of]

/-- A step takes nothing from those that it does not touch. -/
lemma mono {e : Event α} (h : s.IsHandedBack) (hreachable : Reachable p true s)
    (hstep : Transition p s e s') {t : Thread} (ht : t ≠ worker) :
    (s.stack t).IsChain s'.HandsBack := by
  refine (h t ht).imp_of_mem_imp fun a b _ hb hab hreleasing => ?_
  refine (hab hreleasing).imp_right fun hending g hg => ?_
  have hown := hreachable.isLocked.owner_eq_of_mem (hreleasing ▸ hb) rfl
  obtain ⟨i, hmem, hi⟩ := hending g hg
  exact ⟨i, hstep.grants_subset hmem, hreachable.isUnserved_step hstep ht hown hi⟩

lemma put (h : ∀ t ≠ worker, (s.stack t).IsChain s'.HandsBack) {t : Thread} {fs : List Frame}
    (hframes : s'.frames = s.frames.put t fs)
    (hfs : t ≠ worker → (s.stack t).IsChain s'.HandsBack → fs.IsChain s'.HandsBack) :
    s'.IsHandedBack := by
  intro u hu
  rw [stack_put hframes]
  split
  next hut => exact hfs (hut ▸ hu) (hut ▸ h u hu)
  next => exact h u hu

/-- A thread that may call the coalescer has no lock to release next. -/
lemma ne_releasing_of_mayCall {t : Thread} {f : Frame} (h : s.mayCall t)
    (hf : f ∈ (s.stack t).head?) : f ≠ .releasing := by
  rintro rfl
  obtain ⟨rest, hrest⟩ := List.head?_eq_some_iff.mp hf
  simp [State.mayCall, hrest] at h

/-- A task that is about to be marked finished is not over, so that the worker has not served it. -/
lemma isUnserved_of_settling (h : Reachable p true s) {t : Thread} {i g : Nat} {rest : List Frame}
    (htop : s.stack t = .settling i :: rest) (hhas : s.grantOf? i = some g) : s.IsUnserved i := by
  have hmem : i ∈ s.runsOf t := by
    rw [State.runsOf, htop]
    exact List.mem_cons_self
  exact (h.isServed i (lt_of_grantOf? hhas)).resolve_left (h.isOrdered.not_isOver_of_mem t i hmem)

/-- Steps keep the order on the stacks. -/
lemma step {e : Event α} (h : s.IsHandedBack) (hreachable : Reachable p true s)
    (hstep : Transition p s e s') : s'.IsHandedBack := by
  have hmono (t : Thread) (ht : t ≠ worker) := h.mono hreachable hstep ht
  have hkept {t : Thread} (ht : t ≠ worker) (hown : s.owner = some t) (i : Nat)
      (hi : s.IsUnserved i) := hreachable.isUnserved_step hstep ht hown hi
  cases hstep with
  | registerAlone _ _ _ alone | flushAlone _ _ alone | closeAlone _ _ _ alone =>
      exact absurd hreachable.hasWorker_eq (by simp [alone])
  | fold | receiveFlush => exact hmono
  | register may =>
      refine put hmono rfl fun _ hchain => List.isChain_cons.mpr ⟨fun f hf hreleasing => ?_, hchain⟩
      exact absurd hreleasing (ne_releasing_of_mayCall may hf)
  | receiveRun => exact put hmono rfl fun ht => absurd rfl ht
  | expire | flush | close => exact put hmono rfl fun _ => isChain_cons_of_plain rfl rfl
  | ask top | grant top | attachLate top =>
      exact put hmono rfl fun _ hchain => isChain_cons_of_submits rfl (top ▸ hchain)
  | acquire top | start top | miss top | finish top | settle top =>
      refine put hmono rfl fun _ hchain => isChain_cons_of_plain rfl rfl ?_
      rw [top] at hchain
      exact hchain.tail
  | @settleGranted t i g rest top has =>
      refine put hmono rfl fun ht hchain => ?_
      have hown := hreachable.isLocked.owner_eq_of_mem (top ▸ List.mem_cons_self) rfl
      have hi := hkept ht hown i (isUnserved_of_settling hreachable top has)
      have hmem := (hreachable.isWarranted.entries i g has).1
      rw [top] at hchain
      have hbelow := isChain_cons_of_plain (f := .releasing) rfl rfl hchain.tail
      refine List.isChain_cons_cons.mpr ⟨fun _ => ⟨rfl, ?_⟩, hbelow⟩
      rintro _ ⟨⟩
      exact ⟨i, hmem, hi⟩
  | refuse top | attach top | leave top | giveBack top | release top | resume top
  | resumeJoined top | returned top =>
      refine put hmono rfl fun _ hchain => ?_
      rw [top] at hchain
      exact hchain.tail

end State.IsHandedBack

end TrackerGuard.Coalescer
