import Mathlib
import TrackerGuard.Proofs.Coalescer.History

/-!
# Flushing and closing are barriers

A thread that flushes the coalescer puts a request for an acknowledgement behind everything that is
in the queue, and goes on when the acknowledgement is given.  A thread that closes the coalescer
goes on when the worker has drained its queue.

The worker gives an acknowledgement when it is busy with nothing else.  No task that was registered
before the request is behind the request in the queue, nor with the worker then, so all of them are
over: `State.IsBehind` is what steps keep until that moment.  A task that somebody else is running
is not over, but then the worker is still waiting for the lock to find that out.

A submission that is folded has no place of its own in the queue.  It is served by the task that it
went into, which was registered before.
-/

namespace TrackerGuard.Coalescer

variable {α : Type} {p : Policy α} {hasWorker : Bool} {s s' later : State α}

/-! ## Runs that are complete -/

/-- The task was started, it was marked finished after its run, and nobody is in the middle of that
run. -/
def State.HasRun (s : State α) (i : Nat) : Prop :=
  s.isOver i ∧ (∃ x, (i, x) ∈ s.runs) ∧ ∀ t, i ∉ s.runsOf t

lemma Reachable.hasRun_of_isOver (h : Reachable p hasWorker s) {i : Nat} (hover : s.isOver i) :
    s.HasRun i := by
  have hlt := h.isOrdered.lt_of_isOver i hover
  have hr := List.getElem?_eq_getElem hlt
  have hfirst : s.runs[i].1 = i := (h.isLedger.runs_eq i _ hr).1
  refine ⟨hover, ⟨s.runs[i].2, ?_⟩, fun t ht => h.isOrdered.not_isOver_of_mem t i ht hover⟩
  have hmem := List.getElem_mem hlt
  rwa [← Prod.mk.eta (p := s.runs[i]), hfirst] at hmem

/-! ## Threads that wait -/

/-- What a thread is in the middle of while it waits for the worker. -/
def Frame.isWaiting : Frame → Bool
  | .awaiting _ | .joining => true
  | _ => false

/-- A thread goes on waiting until it resumes. -/
lemma Transition.mem_or_resume {e : Event α} (h : Transition p s e s') {t : Thread} {f : Frame}
    (hf : f.isWaiting) (hmem : f ∈ s.stack t) :
    f ∈ s'.stack t ∨ e = .resume t ∧ ∃ rest, s.stack t = f :: rest := by
  have hresume {u : Thread} {g : Frame} {rest : List Frame} (top : s.stack u = g :: rest)
      (hframes : s'.frames = s.frames.put u rest) :
      f ∈ s'.stack t ∨ u = t ∧ ∃ rest, s.stack t = f :: rest := by
    rw [stack_put hframes]
    split
    next hu =>
      subst hu
      rw [top, List.mem_cons] at hmem
      obtain rfl | hrest := hmem
      · exact .inr ⟨rfl, rest, top⟩
      · exact .inl hrest
    next => exact .inl hmem
  cases h with
  | fold | receiveFlush | flushAlone | closeAlone => exact .inl hmem
  | receiveRun idle => exact .inl (mem_stack_put rfl (by simp [idle]) hmem)
  | registerAlone => exact .inl (mem_stack_put rfl (by simp +contextual) hmem)
  | register | expire | flush | close =>
      exact .inl (mem_stack_put rfl (List.mem_cons_of_mem _) hmem)
  | resume top | resumeJoined top =>
      exact (hresume top rfl).imp_right fun ⟨hu, htop⟩ => ⟨congrArg Event.resume hu, htop⟩
  | ask top | refuse top | grant top | attachLate top | attach top | acquire top | leave top
  | start top | miss top | finish top | settleGranted top | settle top | giveBack top
  | release top | returned top =>
      refine .inl (mem_stack_put rfl (fun hin => ?_) hmem)
      rw [top, List.mem_cons] at hin
      obtain rfl | hrest := hin
      · cases hf
      · simp [hrest]

lemma Transition.acknowledged_subset {e : Event α} (h : Transition p s e s') :
    s.acknowledged ⊆ s'.acknowledged := by
  cases h with
  | receiveFlush => exact List.subset_cons_self _ _
  | _ => exact List.Subset.refl _

/-- A thread that waits for an acknowledgement waits until it is given. -/
lemma Follows.awaiting_or_acknowledged (h : Follows p s later) {t : Thread} {n : Nat}
    (hmem : .awaiting n ∈ s.stack t) : .awaiting n ∈ later.stack t ∨ n ∈ later.acknowledged := by
  induction h with
  | refl => exact .inl hmem
  | tail _ hstep ih =>
      obtain ⟨e, he⟩ := hstep
      have htransition := Transition.of_step he
      obtain hwaits | hgiven := ih
      · obtain hkept | ⟨rfl, rest, htop⟩ := htransition.mem_or_resume rfl hwaits
        · exact .inl hkept
        · cases htransition with
          | resume top given =>
              obtain ⟨hframe, -⟩ := List.cons.inj (htop.symm.trans top)
              obtain rfl := Frame.awaiting.inj hframe
              exact .inr given
          | resumeJoined top | returned top => cases htop.symm.trans top
      · exact .inr (htransition.acknowledged_subset hgiven)

/-! ## Acknowledgements -/

/-- Acknowledgements that were asked for have a number below that of the next one. -/
structure State.IsNumbered (s : State α) : Prop where
  lt_of_mem_queue : ∀ n, .flush n ∈ s.queue → n < s.tickets
  lt_of_acknowledged : ∀ n ∈ s.acknowledged, n < s.tickets

namespace State.IsNumbered

lemma start : ({ hasWorker := hasWorker } : State α).IsNumbered := ⟨by simp, by simp⟩

lemma step {e : Event α} (h : s.IsNumbered) (hstep : Transition p s e s') : s'.IsNumbered := by
  cases hstep with
  | register => exact ⟨by simpa [State.withStack] using h.lt_of_mem_queue, h.lt_of_acknowledged⟩
  | receiveRun _ first =>
      refine ⟨fun n hn => h.lt_of_mem_queue n ?_, h.lt_of_acknowledged⟩
      exact first ▸ List.mem_cons_of_mem _ hn
  | receiveFlush _ first =>
      refine ⟨fun n hn => h.lt_of_mem_queue n (first ▸ List.mem_cons_of_mem _ hn), ?_⟩
      intro n hn
      obtain rfl | hn := List.mem_cons.mp hn
      · exact h.lt_of_mem_queue n (first ▸ List.mem_cons_self)
      · exact h.lt_of_acknowledged n hn
  | flush =>
      refine ⟨fun n hn => ?_, fun n hn => (h.lt_of_acknowledged n hn).trans (Nat.lt_succ_self _)⟩
      obtain hn | hn := List.mem_append.mp hn
      · exact (h.lt_of_mem_queue n hn).trans (Nat.lt_succ_self _)
      · obtain rfl := Message.flush.inj (List.mem_singleton.mp hn)
        exact Nat.lt_succ_self _
  | _ => exact ⟨h.lt_of_mem_queue, h.lt_of_acknowledged⟩

end State.IsNumbered

theorem Reachable.isNumbered (h : Reachable p hasWorker s) : s.IsNumbered := by
  induction h with
  | start => exact .start
  | next _ _ hstep ih => exact ih.step (.of_step hstep)

/-- The acknowledgement with number `n` is behind the first `k` tasks: they are over, or it has not
been given and none of them is behind it in the queue. -/
def State.IsBehind (s : State α) (n k : Nat) : Prop :=
  (∀ i < k, s.isOver i) ∨
    n ∉ s.acknowledged ∧ s.queue.Pairwise fun a b => a = .flush n → ∀ i < k, b ≠ .run i

namespace State.IsBehind

variable {n k : Nat}

/-- An acknowledgement that was just asked for is behind all tasks that are registered. -/
lemma of_flush (hnumbered : s.IsNumbered) (hn : n = s.tickets)
    (hqueue : s'.queue = s.queue ++ [.flush n]) (hgiven : s'.acknowledged = s.acknowledged) :
    s'.IsBehind n k := by
  subst hn
  refine .inr ⟨fun hmem => ?_, ?_⟩
  · exact lt_irrefl _ (hnumbered.lt_of_acknowledged _ (hgiven ▸ hmem))
  · have hnew : .flush s.tickets ∉ s.queue := fun hmem =>
      lt_irrefl _ (hnumbered.lt_of_mem_queue _ hmem)
    rw [hqueue, List.pairwise_append]
    refine ⟨List.pairwise_of_forall_mem_list fun a ha b _ hab => ?_, List.pairwise_singleton _ _,
      fun a _ b hb _ i _ => ?_⟩
    · exact absurd (hab ▸ ha) hnew
    · rw [List.mem_singleton.mp hb]
      exact nofun

/-- The worker gives the acknowledgement when it is busy with nothing: each of the tasks is over,
because it is neither with the worker nor in the rest of the queue. -/
lemma step {e : Event α} (h : s.IsBehind n k) (hserved : s.IsServed)
    (hk : k ≤ s.entries.length) (hstep : Transition p s e s') : s'.IsBehind n k := by
  obtain hover | ⟨hgiven, hqueue⟩ := h
  · exact .inl fun i hi => hstep.isOver_mono i (hover i hi)
  cases hstep with
  | register =>
      refine .inr ⟨hgiven, List.pairwise_append.mpr ⟨hqueue, List.pairwise_singleton _ _, ?_⟩⟩
      intro a _ b hb _ i hi heq
      have hnew := Message.run.inj (heq.symm.trans (List.mem_singleton.mp hb))
      omega
  | flush =>
      refine .inr ⟨hgiven, List.pairwise_append.mpr ⟨hqueue, List.pairwise_singleton _ _, ?_⟩⟩
      intro a _ b hb _ i _ heq
      cases heq.symm.trans (List.mem_singleton.mp hb)
  | receiveRun _ first =>
      rw [first] at hqueue
      exact .inr ⟨hgiven, hqueue.tail⟩
  | @receiveFlush m queue idle first =>
      rw [first, List.pairwise_cons] at hqueue
      by_cases hm : m = n
      · refine .inl fun i hi => (hserved i (hi.trans_le hk)).resolve_right ?_
        rintro (hmem | hwith)
        · rw [first] at hmem
          obtain heq | hrest := List.mem_cons.mp hmem
          · cases heq
          · exact hqueue.1 _ hrest (congrArg Message.flush hm) i hi rfl
        · rw [State.served?, idle] at hwith
          cases hwith
      · refine .inr ⟨fun hmem => ?_, hqueue.2⟩
        obtain heq | hmem := List.mem_cons.mp hmem
        · exact hm heq.symm
        · exact hgiven hmem
  | _ => exact .inr ⟨hgiven, hqueue⟩

lemma follows (h : s.IsBehind n k) (hs : Reachable p true s) (hk : k ≤ s.entries.length)
    (hlater : Follows p s later) : later.IsBehind n k := by
  induction hlater with
  | refl => exact h
  | tail hbefore hstep ih =>
      obtain ⟨e, he⟩ := hstep
      exact ih.step (hs.of_follows hbefore).isServed
        (hk.trans (Follows.entries_length_le hbefore)) (.of_step he)

end State.IsBehind

/-! ## Closing -/

lemma Transition.closed_mono {e : Event α} (h : Transition p s e s') (hclosed : s.closed) :
    s'.closed := by
  cases h with
  | close | closeAlone => rfl
  | _ => exact hclosed

/-- No task is registered any more. -/
lemma Transition.entries_length_eq {e : Event α} (h : Transition p s e s') (hclosed : s.closed) :
    s'.entries.length = s.entries.length := by
  cases h with
  | register _ isOpen | registerAlone _ isOpen => rw [isOpen] at hclosed; cases hclosed
  | fold | attach | start | settleGranted | settle => exact List.length_modify _ _ _
  | _ => rfl

/-- A thread that closed the coalescer waits until all tasks are over. -/
lemma Follows.joining_or_isOver (h : Follows p s later) (hs : Reachable p true s)
    (hclosed : s.closed) {t : Thread} (hmem : .joining ∈ s.stack t) :
    later.closed ∧ (.joining ∈ later.stack t ∨ ∀ i < later.entries.length, later.isOver i) := by
  induction h with
  | refl => exact ⟨hclosed, .inl hmem⟩
  | tail hbefore hstep ih =>
      obtain ⟨e, he⟩ := hstep
      have htransition := Transition.of_step he
      obtain ⟨hclosed, ih⟩ := ih
      refine ⟨htransition.closed_mono hclosed, ?_⟩
      obtain hwaits | hover := ih
      · obtain hkept | ⟨rfl, rest, htop⟩ := htransition.mem_or_resume rfl hwaits
        · exact .inl hkept
        · cases htransition with
          | resume top | returned top => cases htop.symm.trans top
          | resumeJoined top drained =>
              have hserved := (hs.of_follows hbefore).isServed
              exact .inr fun i => hserved.isOver_of_isDrained drained
      · refine .inr fun i hi => htransition.isOver_mono i (hover i ?_)
        rwa [htransition.entries_length_eq hclosed] at hi

/-! ## Barriers -/

/-- When a thread goes on after a flush, all tasks that were registered before are over. -/
lemma Follows.isOver_of_flush (h : Reachable p true s) {t : Thread}
    (hflush : step p s (.flush t) = some s') (hlater : Follows p s' later)
    (hreturned : .awaiting s.tickets ∉ later.stack t) :
    ∀ i < s.entries.length, later.isOver i := by
  obtain ⟨hbehind, hlength, hwaits⟩ :
      s'.IsBehind s.tickets s.entries.length ∧ s.entries.length = s'.entries.length ∧
        .awaiting s.tickets ∈ s'.stack t := by
    cases Transition.of_step hflush with
    | flushAlone _ _ alone => rw [h.hasWorker_eq] at alone; cases alone
    | flush =>
        refine ⟨.of_flush h.isNumbered rfl rfl rfl, rfl, ?_⟩
        rw [stack_put rfl, if_pos rfl]
        exact List.mem_cons_self
  have hgiven := (hlater.awaiting_or_acknowledged hwaits).resolve_left hreturned
  exact (hbehind.follows (.next _ h hflush) hlength.le hlater).resolve_right fun hnot =>
    hnot.1 hgiven

/-- When a thread goes on after closing the coalescer, all tasks are over. -/
lemma Follows.isOver_of_close (h : Reachable p true s) {t : Thread}
    (hclose : step p s (.close t) = some s') (hlater : Follows p s' later)
    (hreturned : .joining ∉ later.stack t) : ∀ i < later.entries.length, later.isOver i := by
  obtain ⟨hclosed, hwaits⟩ : s'.closed ∧ .joining ∈ s'.stack t := by
    cases Transition.of_step hclose with
    | closeAlone _ _ _ alone => rw [h.hasWorker_eq] at alone; cases alone
    | close =>
        refine ⟨rfl, ?_⟩
        rw [stack_put rfl, if_pos rfl]
        exact List.mem_cons_self
  exact (hlater.joining_or_isOver (.next _ h hclose) hclosed hwaits).2.resolve_left hreturned

/-- **Barriers.**  The worker has started.  When a call of `flush` has returned, so that the thread
does not wait for its acknowledgement any more, the tasks of all submissions before the call have
run, whether these registered them, were folded into them or were dropped.  When the coalescer has
been closed and the closing thread has gone on, all tasks have run. -/
theorem flush_and_close_are_barriers (h : Reachable p true s) (t : Thread) :
    (∀ s' later, step p s (.flush t) = some s' → Follows p s' later →
      .awaiting s.tickets ∉ later.stack t → ∀ r ∈ s.submissions, later.HasRun r.2) ∧
    ∀ s' later, step p s (.close t) = some s' → Follows p s' later →
      .joining ∉ later.stack t → ∀ i < later.entries.length, later.HasRun i := by
  constructor
  · intro s' later hstep hlater hreturned r hr
    have hreachable := (Reachable.next _ h hstep).of_follows hlater
    have hover := hlater.isOver_of_flush h hstep hreturned r.2 (h.isLedger.tag_lt r hr)
    exact hreachable.hasRun_of_isOver hover
  · intro s' later hstep hlater hreturned i hi
    have hreachable := (Reachable.next _ h hstep).of_follows hlater
    exact hreachable.hasRun_of_isOver (hlater.isOver_of_close h hstep hreturned i hi)

/-- The time of the first task is up, and thread 3 runs it.  Meanwhile a second task is registered;
one submission is dropped and one is merged into it.  The worker takes the first task off its queue
and has to wait for the lock. -/
def overtaken : List (Event Nat) :=
  [.submit 1 1, .ask 1, .answer 1 (some 7), .attach 1, .expire 3 0, .acquire 3, .take 3,
    .submit 1 2, .ask 1, .answer 1 none, .submit 2 2, .submit 2 3, .receive]

/-- Thread 3 comes to the end of its run, the worker finds the first task gone and runs the second,
and the acknowledgement is given. -/
def caughtUp : List (Event Nat) :=
  [.finish 3 false, .settle 3, .giveBack 3, .release 3,
    .acquire worker, .take worker, .release worker,
    .receive, .acquire worker, .take worker, .finish worker true, .settle worker, .release worker,
    .receive, .resume 4]

/-- A third task is registered. -/
def oneMore : List (Event Nat) := [.submit 1 9, .ask 1, .answer 1 none]

/-- The worker runs the third task, and the closing thread goes on. -/
def lastRun : List (Event Nat) :=
  [.receive, .acquire worker, .take worker, .finish worker false, .settle worker, .release worker,
    .resume 5]

theorem overtaken_flush_and_close_are_barriers :
    ∃ s₁ s₂ s₃ s₄ s₅ s₆ : State Nat,
      overtaken.foldlM (step adding) {} = some s₁ ∧ step adding s₁ (.flush 4) = some s₂ ∧
      caughtUp.foldlM (step adding) s₂ = some s₃ ∧ .awaiting s₁.tickets ∉ s₃.stack 4 ∧
      s₁.submissions = [(1, 0), (2, 1), (2, 1), (3, 1)] ∧ s₃.HasRun 0 ∧ s₃.HasRun 1 ∧
      oneMore.foldlM (step adding) s₃ = some s₄ ∧ step adding s₄ (.close 5) = some s₅ ∧
      lastRun.foldlM (step adding) s₅ = some s₆ ∧ .joining ∉ s₆.stack 5 ∧
      s₆.entries.length = 3 ∧ s₆.HasRun 2 := by
  obtain ⟨s₁, s₂, s₃, s₄, s₅, s₆, h₁, h₂, h₃, hreturned, hsubmissions, h₄, h₅, h₆, hjoined,
      hlength⟩ :
      ∃ s₁ s₂ s₃ s₄ s₅ s₆ : State Nat,
        overtaken.foldlM (step adding) {} = some s₁ ∧ step adding s₁ (.flush 4) = some s₂ ∧
        caughtUp.foldlM (step adding) s₂ = some s₃ ∧ .awaiting s₁.tickets ∉ s₃.stack 4 ∧
        s₁.submissions = [(1, 0), (2, 1), (2, 1), (3, 1)] ∧
        oneMore.foldlM (step adding) s₃ = some s₄ ∧ step adding s₄ (.close 5) = some s₅ ∧
        lastRun.foldlM (step adding) s₅ = some s₆ ∧ .joining ∉ s₆.stack 5 ∧
        s₆.entries.length = 3 :=
    ⟨_, _, _, _, _, _, rfl, rfl, rfl, by decide, rfl, rfl, rfl, rfl, by decide, rfl⟩
  have hfirst : Reachable adding true s₁ := reachable_of_foldlM h₁
  have hlast : Reachable adding true s₄ :=
    (Reachable.next _ hfirst h₂).of_follows
      ((follows_of_foldlM caughtUp h₃).trans (follows_of_foldlM oneMore h₄))
  have hflushed := (flush_and_close_are_barriers hfirst 4).1 s₂ s₃ h₂
    (follows_of_foldlM caughtUp h₃) hreturned
  have hclosed := (flush_and_close_are_barriers hlast 5).2 s₅ s₆ h₅
    (follows_of_foldlM lastRun h₆) hjoined
  exact ⟨s₁, s₂, s₃, s₄, s₅, s₆, h₁, h₂, h₃, hreturned, hsubmissions,
    hflushed (1, 0) (by simp [hsubmissions]), hflushed (3, 1) (by simp [hsubmissions]),
    h₄, h₅, h₆, hjoined, hlength, hclosed 2 (by omega)⟩

end TrackerGuard.Coalescer
