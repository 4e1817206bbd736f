import Mathlib
import TrackerGuard.Proofs.Coalescer.Transition

/-!
# What has been submitted and what has been run

Each submission goes into one task.  The submissions that went into a task are its block, and what a
task is run with should be the fold of its block.

`State.IsLedger` says so of all tasks at once.  The tasks that were started are the first ones, in
their order; one more task at most is registered, and it waits with the fold of its block.  Blocks
are not empty and follow each other in the order of the submissions.  So a block is complete when
its task is started: the next submission finds no task that waits and opens a block of its own
(`IsLedger.blocks_of_length_eq`), and later steps do not touch it (`Follows.block_eq`).
-/

namespace TrackerGuard.Coalescer

variable {α : Type}

/-- What is to be run after submissions that went into one task. -/
def Policy.foldAll (p : Policy α) : List α → Option α
  | [] => none
  | x :: xs => some (xs.foldl p.fold x)

/-- The submissions that went into a task, in their order. -/
def State.block (s : State α) (i : Nat) : List α :=
  (s.submissions.filter (·.2 == i)).map Prod.fst

variable {p : Policy α} {hasWorker : Bool} {s s' : State α}

lemma Policy.foldAll_eq_none_iff {xs : List α} : p.foldAll xs = none ↔ xs = [] := by
  cases xs with
  | nil => simp [Policy.foldAll]
  | cons x xs => simp [Policy.foldAll]

lemma Policy.foldAll_concat {xs : List α} {waiting : α} (x : α)
    (h : p.foldAll xs = some waiting) : p.foldAll (xs ++ [x]) = some (p.fold waiting x) := by
  cases xs with
  | nil => cases h
  | cons y ys =>
      obtain rfl := Option.some.inj h
      simp [Policy.foldAll, List.foldl_append]

lemma block_of_submissions_eq (h : s'.submissions = s.submissions) (i : Nat) :
    s'.block i = s.block i := by
  rw [State.block, h, State.block]

/-! A submission that goes into the task with a number is the last of its block, and the other
blocks stay as they are. -/

section Submission

variable {x : α} {n : Nat}

lemma block_of_ne (h : s'.submissions = s.submissions ++ [(x, n)]) {i : Nat} (hi : i ≠ n) :
    s'.block i = s.block i := by
  rw [State.block, h, List.filter_append, List.map_append, ← State.block]
  simp [hi.symm]

lemma block_self (h : s'.submissions = s.submissions ++ [(x, n)]) :
    s'.block n = s.block n ++ [x] := by
  rw [State.block, h, List.filter_append, List.map_append, ← State.block]
  simp

lemma flatMap_block_concat (h : s'.submissions = s.submissions ++ [(x, n)]) :
    (List.range (n + 1)).flatMap s'.block = (List.range (n + 1)).flatMap s.block ++ [x] := by
  have hbefore : (List.range n).flatMap s'.block = (List.range n).flatMap s.block :=
    List.flatMap_congr fun i hi => block_of_ne h (List.mem_range.mp hi).ne
  rw [List.range_succ, List.flatMap_append, List.flatMap_append, hbefore, List.append_assoc]
  simp [block_self h]

lemma tag_lt_concat (h : s'.submissions = s.submissions ++ [(x, n)])
    (hlt : ∀ r ∈ s.submissions, r.2 < n + 1) : ∀ r ∈ s'.submissions, r.2 < n + 1 := by
  intro r hr
  rw [h, List.mem_append, List.mem_singleton] at hr
  obtain hr | rfl := hr
  · exact hlt r hr
  · exact Nat.lt_succ_self _

end Submission

/-- A change of one entry that keeps some of its data keeps that of all entries. -/
lemma map_getElem?_modify {β : Type} {f : Entry α → Entry α} {g : Entry α → β}
    (hf : ∀ e, g (f e) = g e) (entries : List (Entry α)) (i j : Nat) :
    (entries.modify i f)[j]?.map g = entries[j]?.map g := by
  rw [List.getElem?_modify]
  by_cases hj : i = j
  · simp [hj, Function.comp_def, hf]
  · simp [hj]

lemma map_waiting_modify (entries : List (Entry α)) (i : Nat) {f : Entry α → Entry α}
    (hf : ∀ e, (f e).waiting = e.waiting) :
    (entries.modify i f).map (·.waiting) = entries.map (·.waiting) := by
  refine List.ext_getElem? fun j => ?_
  rw [List.getElem?_map, List.getElem?_map]
  exact map_getElem?_modify hf entries i j

lemma bind_waiting_modify {entries : List (Entry α)} {i : Nat} {old : α}
    (h : entries[i]?.bind (·.waiting) = some old) (new : Option α) (j : Nat) :
    (entries.modify i fun e => { e with waiting := new })[j]?.bind (·.waiting) =
      if j = i then new else entries[j]?.bind (·.waiting) := by
  obtain ⟨e, he, -⟩ := Option.bind_eq_some_iff.mp h
  rw [List.getElem?_modify]
  by_cases hj : j = i
  · simp [hj, he]
  · simp [hj, Ne.symm hj]

/-! ## The ledger -/

/-- What has been submitted is accounted for by the tasks and what they have been run with. -/
structure State.IsLedger (p : Policy α) (s : State α) : Prop where
  tag_lt : ∀ r ∈ s.submissions, r.2 < s.entries.length
  /-- The blocks make up the submissions. -/
  blocks : s.submissions.map Prod.fst = (List.range s.entries.length).flatMap s.block
  block_ne_nil : ∀ i < s.entries.length, s.block i ≠ []
  length_le : s.entries.length ≤ s.runs.length + 1
  /-- The first task that has not been started waits, and no other one. -/
  waiting_eq : ∀ i, s.entries[i]?.bind (·.waiting) =
    if i = s.runs.length then p.foldAll (s.block i) else none
  runs_eq : ∀ n r, s.runs[n]? = some r → r.1 = n ∧ p.foldAll (s.block n) = some r.2

namespace State.IsLedger

lemma block_eq_nil (h : s.IsLedger p) {i : Nat} (hi : s.entries.length ≤ i) : s.block i = [] := by
  rw [State.block, List.map_eq_nil_iff, List.filter_eq_nil_iff]
  intro r hr
  have hlt := h.tag_lt r hr
  simp only [beq_iff_eq]
  omega

lemma runs_length_le (h : s.IsLedger p) : s.runs.length ≤ s.entries.length := by
  by_contra hlt
  have hr := List.getElem?_eq_getElem (l := s.runs) (i := s.entries.length) (by omega)
  have hfold := (h.runs_eq _ _ hr).2
  rw [h.block_eq_nil le_rfl] at hfold
  cases hfold

/-- A task that waits is the first that has not been started, and the last one. -/
lemma of_waiting (h : s.IsLedger p) {i : Nat} {x : α}
    (hx : s.entries[i]?.bind (·.waiting) = some x) :
    i = s.runs.length ∧ s.entries.length = s.runs.length + 1 ∧ p.foldAll (s.block i) = some x := by
  have hwaits := h.waiting_eq i
  rw [hx] at hwaits
  split at hwaits
  next hi =>
    obtain ⟨e, he, -⟩ := Option.bind_eq_some_iff.mp hx
    have hlt := (List.getElem?_eq_some_iff.mp he).1
    have hle := h.length_le
    exact ⟨hi, by omega, hwaits.symm⟩
  next => cases hwaits

/-- A registered task that does not wait has been started. -/
lemma lt_of_not_waiting (h : s.IsLedger p) {i : Nat} (hi : i < s.entries.length)
    (hgone : s.entries[i]?.bind (·.waiting) = none) : i < s.runs.length := by
  have hle := h.length_le
  by_contra hge
  rw [h.waiting_eq, if_pos (by omega), Policy.foldAll_eq_none_iff] at hgone
  exact h.block_ne_nil i hi hgone

/-- If the last task does not wait, all have been started. -/
lemma length_eq_of_last (h : s.IsLedger p) (hlast : s.entries.getLast?.bind (·.waiting) = none) :
    s.entries.length = s.runs.length := by
  have hge := h.runs_length_le
  obtain hnil | hpos := Nat.eq_zero_or_pos s.entries.length
  · omega
  · rw [List.getLast?_eq_getElem?] at hlast
    have hlt := h.lt_of_not_waiting (by omega) hlast
    omega

/-- After a submission a task waits. -/
lemma length_eq_of_submit (h : s.IsLedger p) {t : Thread} {x : α}
    (hstep : Transition p s (.submit t x) s') : s'.entries.length = s'.runs.length + 1 := by
  cases hstep with
  | fold _ _ last =>
      rw [List.getLast?_eq_getElem?] at last
      simpa using (h.of_waiting last).2.1
  | register _ _ last | registerAlone _ _ last =>
      simpa [State.withStack] using h.length_eq_of_last last

/-- When all tasks have been started, their blocks are all that has been submitted. -/
lemma blocks_of_length_eq (h : s.IsLedger p) (hall : s.runs.length = s.entries.length) :
    s.submissions.map Prod.fst = (List.range s.runs.length).flatMap s.block :=
  hall ▸ h.blocks

/-! ## Steps -/

lemma start : ({ hasWorker := hasWorker } : State α).IsLedger p where
  tag_lt := by simp
  blocks := rfl
  block_ne_nil := by simp
  length_le := by simp
  waiting_eq i := by simp [State.block, Policy.foldAll]
  runs_eq n r hr := by simp at hr

/-- A step that neither submits nor starts a task. -/
lemma of_waiting_eq (h : s.IsLedger p)
    (hentries : s'.entries.map (·.waiting) = s.entries.map (·.waiting))
    (hsubmissions : s'.submissions = s.submissions) (hruns : s'.runs = s.runs) :
    s'.IsLedger p := by
  have hlength : s'.entries.length = s.entries.length := by
    simpa using congrArg List.length hentries
  have hblock := block_of_submissions_eq hsubmissions
  have hwaiting (i : Nat) :
      s'.entries[i]?.bind (·.waiting) = s.entries[i]?.bind (·.waiting) := by
    have hat := congrArg (·[i]?.bind id) hentries
    simpa only [List.getElem?_map, Option.bind_map, Function.id_comp] using hat
  exact
    { tag_lt := by rw [hsubmissions, hlength]; exact h.tag_lt
      blocks := by rw [hsubmissions, hlength, funext hblock]; exact h.blocks
      block_ne_nil := fun i hi => by rw [hblock]; exact h.block_ne_nil i (hlength ▸ hi)
      length_le := by rw [hlength, hruns]; exact h.length_le
      waiting_eq := fun i => by rw [hwaiting, hruns, hblock]; exact h.waiting_eq i
      runs_eq := fun n r hr => by rw [hblock]; exact h.runs_eq n r (hruns ▸ hr) }

/-- A submission goes into the task that waits. -/
lemma fold (h : s.IsLedger p) {x waiting : α}
    (hlast : s.entries.getLast?.bind (·.waiting) = some waiting)
    (hentries : s'.entries = s.entries.modify (s.entries.length - 1) fun e =>
      { e with waiting := some (p.fold waiting x) })
    (hsubmissions : s'.submissions = s.submissions ++ [(x, s.entries.length - 1)])
    (hruns : s'.runs = s.runs) : s'.IsLedger p := by
  rw [List.getLast?_eq_getElem?] at hlast
  obtain ⟨hi, hlength, hfold⟩ := h.of_waiting hlast
  rw [hi] at hentries hsubmissions hlast hfold
  have hlength' : s'.entries.length = s.runs.length + 1 := by simp [hentries, hlength]
  exact
    { tag_lt := hlength' ▸ tag_lt_concat hsubmissions (hlength ▸ h.tag_lt)
      blocks := by
        rw [hlength', flatMap_block_concat hsubmissions, hsubmissions, List.map_append, h.blocks,
          hlength, List.map_singleton]
      block_ne_nil := fun i hlt => by
        have hne := h.block_ne_nil i (by omega)
        by_cases hi : i = s.runs.length
        · rw [hi, block_self hsubmissions]
          exact List.append_ne_nil_of_right_ne_nil _ (List.cons_ne_nil _ _)
        · rwa [block_of_ne hsubmissions hi]
      length_le := by rw [hlength', hruns]
      waiting_eq := fun i => by
        rw [hentries, hruns, bind_waiting_modify hlast]
        split
        next hi => rw [hi, block_self hsubmissions, Policy.foldAll_concat x hfold]
        next hi => rw [h.waiting_eq, if_neg hi]
      runs_eq := fun n r hr => by
        rw [hruns] at hr
        rw [block_of_ne hsubmissions (List.getElem?_eq_some_iff.mp hr).1.ne]
        exact h.runs_eq n r hr }

/-- A submission opens a block. -/
lemma register (h : s.IsLedger p) {x : α}
    (hlast : s.entries.getLast?.bind (·.waiting) = none)
    (hentries : s'.entries = s.entries ++ [{ waiting := some x }])
    (hsubmissions : s'.submissions = s.submissions ++ [(x, s.entries.length)])
    (hruns : s'.runs = s.runs) : s'.IsLedger p := by
  have hlength := h.length_eq_of_last hlast
  have hlength' : s'.entries.length = s.entries.length + 1 := by simp [hentries]
  have hself : s'.block s.entries.length = [x] := by
    rw [block_self hsubmissions, h.block_eq_nil le_rfl, List.nil_append]
  exact
    { tag_lt :=
        hlength' ▸ tag_lt_concat hsubmissions fun r hr => (h.tag_lt r hr).trans (Nat.lt_succ_self _)
      blocks := by
        rw [hlength', flatMap_block_concat hsubmissions, hsubmissions, List.map_append, h.blocks,
          List.range_succ, List.flatMap_append, List.flatMap_singleton, h.block_eq_nil le_rfl,
          List.append_nil, List.map_singleton]
      block_ne_nil := fun i hlt => by
        obtain hi | rfl := Nat.lt_succ_iff_lt_or_eq.mp (hlength' ▸ hlt)
        · rw [block_of_ne hsubmissions hi.ne]
          exact h.block_ne_nil i hi
        · simp [hself]
      length_le := by rw [hlength', hruns, hlength]
      waiting_eq := fun i => by
        rw [hentries, hruns, ← hlength]
        split
        next hi => simp [hi, hself, Policy.foldAll]
        next hi =>
          have hbind := h.waiting_eq i
          rw [← hlength, if_neg hi] at hbind
          rw [List.getElem?_append]
          split
          · exact hbind
          · rw [List.getElem?_eq_none (by simp; omega), Option.bind_none]
      runs_eq := fun n r hr => by
        rw [hruns] at hr
        rw [block_of_ne hsubmissions (hlength ▸ (List.getElem?_eq_some_iff.mp hr).1.ne)]
        exact h.runs_eq n r hr }

/-- A task is started with the fold of its block. -/
lemma take (h : s.IsLedger p) {i : Nat} {x : α}
    (hwaits : s.entries[i]?.bind (·.waiting) = some x)
    (hentries : s'.entries = s.entries.modify i fun e => { e with waiting := none })
    (hsubmissions : s'.submissions = s.submissions) (hruns : s'.runs = s.runs ++ [(i, x)]) :
    s'.IsLedger p := by
  obtain ⟨rfl, hlength, hfold⟩ := h.of_waiting hwaits
  have hlength' : s'.entries.length = s.entries.length := by simp [hentries]
  have hblock := block_of_submissions_eq hsubmissions
  exact
    { tag_lt := by rw [hsubmissions, hlength']; exact h.tag_lt
      blocks := by rw [hsubmissions, hlength', funext hblock]; exact h.blocks
      block_ne_nil := fun i hi => by rw [hblock]; exact h.block_ne_nil i (hlength' ▸ hi)
      length_le := by simp [hlength', hlength, hruns]
      waiting_eq := fun i => by
        rw [hentries, bind_waiting_modify hwaits, hruns, List.length_append]
        split
        next hi => rw [if_neg (by simp [hi])]
        next hi =>
          rw [h.waiting_eq, if_neg hi]
          split
          next hi => rw [hblock, h.block_eq_nil (by simp [hi, hlength])]; rfl
          next => rfl
      runs_eq := fun n r hr => by
        rw [hruns] at hr
        rw [hblock]
        obtain hlt | hlt := Nat.lt_or_ge n s.runs.length
        · rw [List.getElem?_append_left hlt] at hr
          exact h.runs_eq n r hr
        · have hn : n = s.runs.length := by
            have hlt' := (List.getElem?_eq_some_iff.mp hr).1
            rw [List.length_append, List.length_singleton] at hlt'
            omega
          subst hn
          rw [List.getElem?_concat_length] at hr
          obtain rfl := Option.some.inj hr
          exact ⟨rfl, hfold⟩ }

/-- Steps keep the ledger. -/
lemma step {e : Event α} (h : s.IsLedger p) (hstep : Transition p s e s') : s'.IsLedger p := by
  cases hstep with
  | fold _ _ last => exact h.fold last rfl rfl rfl
  | register _ _ last | registerAlone _ _ last => exact h.register last rfl rfl rfl
  | start _ waits => exact h.take waits rfl rfl rfl
  | attach => exact h.of_waiting_eq (map_waiting_modify _ _ fun _ => rfl) rfl rfl
  | settleGranted => exact h.of_waiting_eq (map_waiting_modify _ _ fun _ => rfl) rfl rfl
  | settle => exact h.of_waiting_eq (map_waiting_modify _ _ fun _ => rfl) rfl rfl
  | _ => exact h.of_waiting_eq rfl rfl rfl

end State.IsLedger

theorem Reachable.isLedger (h : Reachable p hasWorker s) : s.IsLedger p := by
  induction h with
  | start => exact .start
  | next _ _ hstep ih => exact ih.step (.of_step hstep)

/-! ## Blocks of tasks that were started -/

/-- Steps leave the blocks of the tasks that were started as they are. -/
lemma Transition.block_eq {e : Event α} (hstep : Transition p s e s') (h : s.IsLedger p) {i : Nat}
    (hi : i < s.runs.length) : s'.block i = s.block i := by
  have hle := h.runs_length_le
  cases hstep with
  | fold _ _ last =>
      rw [List.getLast?_eq_getElem?] at last
      obtain ⟨hlast, -, -⟩ := h.of_waiting last
      exact block_of_ne rfl (by omega)
  | register | registerAlone => exact block_of_ne rfl (by omega)
  | _ => rfl

/-- The block of a task that was started stays what it is. -/
lemma Follows.block_eq (h : Reachable p hasWorker s) (hs : Follows p s s') {i : Nat}
    (hi : i < s.runs.length) : s'.block i = s.block i := by
  induction hs with
  | refl => rfl
  | tail hbefore hstep ih =>
      obtain ⟨e, he⟩ := hstep
      have hledger := (h.of_follows hbefore).isLedger
      rw [Transition.block_eq (.of_step he) hledger (hi.trans_le (runs_length_le hbefore)), ih]

/-- A step that starts a task starts the last one. -/
lemma Transition.runs_eq {e : Event α} (hstep : Transition p s e s') (h : s.IsLedger p) :
    s'.runs = s.runs ∨
      s'.submissions = s.submissions ∧ s'.runs.length = s'.entries.length ∧
        ∃ x, s'.runs = s.runs ++ [(s.runs.length, x)] := by
  cases hstep with
  | start _ waits =>
      obtain ⟨rfl, hlength, -⟩ := h.of_waiting waits
      exact .inr ⟨rfl, by simp [hlength], _, rfl⟩
  | _ => exact .inl rfl

end TrackerGuard.Coalescer
