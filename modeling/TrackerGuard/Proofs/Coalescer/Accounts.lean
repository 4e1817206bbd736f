import Mathlib
import TrackerGuard.Proofs.Coalescer.Order

/-!
# Where tasks and grants are

Every registered task is at each moment in one place: the platform was asked for time on its behalf,
or the thread that registered it is about to ask (`State.IsAsked`).  Every grant that was handed out
is in one place, too: a thread carries it, a task has it, or it was given back
(`State.IsConserved`).  Both are equations between numbers, which a step keeps because it takes as
much from one side as it adds to another.

A task may lose a grant only if a second one is attached to it.  That does not happen, since the
thread that submits a task is the only one that attaches a grant, and does so once: a task is in
the middle of its submission or has a grant, but not both (`State.IsAttachable`).
-/

namespace TrackerGuard.Coalescer

variable {α : Type} {p : Policy α} {hasWorker : Bool} {s s' : State α}

/-! ## Counting over all threads -/

/-- How many threads are in the middle of something of a kind, and how often. -/
def State.frameCount (s : State α) (q : Frame → Bool) : Nat := s.frames.flatten.countP q

lemma countP_flatten_put (q : Frame → Bool) (frames : Frames) (t : Thread) (fs : List Frame) :
    (frames.put t fs).flatten.countP q + (frames.of t).countP q =
      frames.flatten.countP q + fs.countP q := by
  fun_induction Frames.put frames t fs with
  | case1 fs => simp [Frames.of]
  | case2 fs t ih => simpa [Frames.of] using ih
  | case3 fs f rest =>
      simp only [Frames.of, List.flatten_cons, List.countP_append, List.getD_cons_zero]
      omega
  | case4 fs f rest t ih =>
      simp only [Frames.of, List.flatten_cons, List.countP_append, List.getD_cons_succ] at ih ⊢
      omega

/-- The threads have gained what the one stack has gained. -/
lemma frameCount_put {t : Thread} {fs : List Frame} (hframes : s'.frames = s.frames.put t fs)
    (q : Frame → Bool) :
    s'.frameCount q + (s.stack t).countP q = s.frameCount q + fs.countP q := by
  rw [State.frameCount, hframes]
  exact countP_flatten_put q s.frames t fs

lemma frameCount_pos_iff {q : Frame → Bool} :
    0 < s.frameCount q ↔ ∃ t, ∃ f ∈ s.stack t, q f := by
  have hmem (f : Frame) : f ∈ s.frames.flatten ↔ ∃ t, f ∈ s.stack t := by
    rw [List.mem_flatten]
    constructor
    · rintro ⟨fs, hfs, hf⟩
      obtain ⟨t, ht⟩ := List.mem_iff_getElem?.mp hfs
      exact ⟨t, by simpa [State.stack, Frames.of, List.getD_eq_getElem?_getD, ht] using hf⟩
    · rintro ⟨t, hf⟩
      exact ⟨s.stack t, (stack_mem_or_eq_nil s t).resolve_right (List.ne_nil_of_mem hf), hf⟩
  rw [State.frameCount, List.countP_pos_iff]
  constructor
  · rintro ⟨f, hf, hq⟩
    obtain ⟨t, ht⟩ := (hmem f).mp hf
    exact ⟨t, f, ht, hq⟩
  · rintro ⟨t, f, hf, hq⟩
    exact ⟨f, (hmem f).mpr ⟨t, hf⟩, hq⟩

/-- A change of one element changes the number of those of a kind by that element. -/
lemma countP_modify {β : Type} (q : β → Bool) (f : β → β) (xs : List β) (i : Nat) :
    (xs.modify i f).countP q + (xs[i]?.any q).toNat =
      xs.countP q + (xs[i]?.any fun x => q (f x)).toNat := by
  induction xs generalizing i with
  | nil => simp
  | cons x xs ih =>
      cases i with
      | zero =>
          simp only [List.modify_zero_cons, List.countP_cons, List.getElem?_cons_zero,
            Option.any_some, Bool.toNat, Bool.cond_eq_ite]
          omega
      | succ i =>
          have hi := ih i
          simp only [List.modify_succ_cons, List.countP_cons, List.getElem?_cons_succ]
          omega

/-- A task that is new is one more. -/
lemma one_if_lt_succ (i n : Nat) :
    (if i < n + 1 then 1 else 0) = (if i < n then 1 else 0) + if n = i then 1 else 0 := by
  split_ifs <;> omega

/-! ## The platform is asked once for each task -/

/-- The platform was asked for time on behalf of each registered task, or a thread is about to
ask. -/
def State.IsAsked (s : State α) : Prop :=
  ∀ i, s.asked.count i + s.frameCount (· == .registered i) = if i < s.entries.length then 1 else 0

namespace State.IsAsked

lemma start : ({ hasWorker := hasWorker } : State α).IsAsked := fun i => by simp [State.frameCount]

/-- A step of a thread that neither registers a task nor asks. -/
lemma put (h : s.IsAsked) {t : Thread} {fs : List Frame}
    (hframes : s'.frames = s.frames.put t fs)
    (hfs : ∀ i, fs.countP (· == .registered i) = (s.stack t).countP (· == .registered i))
    (hlength : s'.entries.length = s.entries.length) (hasked : s'.asked = s.asked) :
    s'.IsAsked := by
  intro i
  have hcount := frameCount_put hframes (· == .registered i)
  have hi := h i
  rw [hasked, hlength]
  have hsame := hfs i
  omega

/-- A task is registered, and its thread is about to ask. -/
lemma register (h : s.IsAsked) {t : Thread} {fs : List Frame}
    (hframes : s'.frames = s.frames.put t (.registered s.entries.length :: fs))
    (hfs : ∀ i, fs.countP (· == .registered i) = (s.stack t).countP (· == .registered i))
    (hlength : s'.entries.length = s.entries.length + 1) (hasked : s'.asked = s.asked) :
    s'.IsAsked := by
  intro i
  have hcount := frameCount_put hframes (· == .registered i)
  have hi := h i
  simp only [List.countP_cons, hfs, beq_iff_eq, Frame.registered.injEq] at hcount
  rw [hasked, hlength, one_if_lt_succ]
  omega

/-- The platform is asked. -/
lemma ask (h : s.IsAsked) {t : Thread} {j : Nat} {rest : List Frame}
    (htop : s.stack t = .registered j :: rest)
    (hframes : s'.frames = s.frames.put t (.asking j :: rest))
    (hlength : s'.entries.length = s.entries.length) (hasked : s'.asked = s.asked ++ [j]) :
    s'.IsAsked := by
  intro i
  have hcount := frameCount_put hframes (· == .registered i)
  have hi := h i
  simp only [htop, List.countP_cons, beq_iff_eq, Frame.registered.injEq, reduceCtorEq, if_false]
    at hcount
  simp only [hasked, hlength, List.count_append, List.count_singleton, beq_iff_eq]
  omega

/-- Steps keep every task asked for once. -/
lemma step {e : Event α} (h : s.IsAsked) (hstep : Transition p s e s') : s'.IsAsked := by
  cases hstep with
  | fold => simpa [State.IsAsked, State.frameCount] using h
  | receiveFlush | flushAlone | closeAlone => exact h
  | register | registerAlone => exact h.register rfl (by simp) (by simp) rfl
  | ask top => exact h.ask top rfl rfl rfl
  | receiveRun idle => exact h.put rfl (by simp [idle]) rfl rfl
  | expire | flush | close => exact h.put rfl (by simp) rfl rfl
  | attach top | start top | settleGranted top | settle top =>
      exact h.put rfl (by simp [top]) (by simp) rfl
  | refuse top | grant top | attachLate top | acquire top | leave top | miss top | finish top
  | giveBack top | release top | resume top | resumeJoined top | returned top =>
      exact h.put rfl (by simp [top]) rfl rfl

end State.IsAsked

/-- The task that a thread is in the middle of submitting. -/
def Frame.submits? : Frame → Option Nat
  | .registered i | .asking i | .granted i _ => some i
  | _ => none

lemma Frame.submits?_registered (i : Nat) : (Frame.registered i).submits? = some i := rfl

/-- The grant that a task has. -/
def State.grantOf? (s : State α) (i : Nat) : Option Nat := s.entries[i]?.bind (·.grant)

lemma grantOf?_append {x : α} (h : s'.entries = s.entries ++ [{ waiting := some x }]) (i : Nat) :
    s'.grantOf? i = s.grantOf? i := by
  rw [State.grantOf?, h, State.grantOf?, List.getElem?_append]
  split
  · rfl
  next hi =>
    rw [List.getElem?_eq_none (Nat.le_of_not_lt hi)]
    cases i - s.entries.length <;> rfl

lemma grantOf?_modify {i : Nat} {f : Entry α → Entry α} (h : s'.entries = s.entries.modify i f)
    (hf : ∀ e, (f e).grant = e.grant) (j : Nat) : s'.grantOf? j = s.grantOf? j := by
  have hmap := congrArg (Option.bind · id) (map_getElem?_modify hf s.entries i j)
  rw [State.grantOf?, h, State.grantOf?]
  simpa only [Option.bind_map, Function.id_comp] using hmap

lemma grantOf?_modify_const {i : Nat} {f : Entry α → Entry α} {g : Option Nat}
    (h : s'.entries = s.entries.modify i f) (hf : ∀ e, (f e).grant = g) (j : Nat) :
    s'.grantOf? j = if j = i then s.entries[i]?.bind fun _ => g else s.grantOf? j := by
  rw [State.grantOf?, h, State.grantOf?, List.getElem?_modify]
  by_cases hj : j = i
  · simp [hj, hf, Option.bind_map]
  · simp [hj, Ne.symm hj]

lemma grantOf?_modify_none {i : Nat} {f : Entry α → Entry α} (h : s'.entries = s.entries.modify i f)
    (hf : ∀ e, (f e).grant = none) (hnone : s.grantOf? i = none) (j : Nat) :
    s'.grantOf? j = s.grantOf? j := by
  rw [grantOf?_modify_const h hf]
  split
  next hj => rw [Option.bind_fun_none, hj, hnone]
  next => rfl

/-- One thread at most is in the middle of submitting a task, which has no grant then. -/
def State.IsAttachable (s : State α) : Prop :=
  ∀ i, s.frameCount (·.submits? == some i) + (s.grantOf? i).isSome.toNat ≤
    if i < s.entries.length then 1 else 0

namespace State.IsAttachable

/-- A task that is about to be told its grant is registered and has none. -/
lemma of_mem (h : s.IsAttachable) {t : Thread} {f : Frame} {i : Nat} (hf : f ∈ s.stack t)
    (hsubmits : f.submits? = some i) : i < s.entries.length ∧ s.grantOf? i = none := by
  have hpos : 0 < s.frameCount (·.submits? == some i) :=
    frameCount_pos_iff.mpr ⟨t, f, hf, by simp [hsubmits]⟩
  have hi := h i
  have hlt : i < s.entries.length := by
    by_contra hge
    rw [if_neg hge] at hi
    omega
  rw [if_pos hlt] at hi
  refine ⟨hlt, ?_⟩
  by_contra hne
  rw [Option.isSome_iff_ne_none.mpr hne, Bool.toNat_true] at hi
  omega

lemma start : ({ hasWorker := hasWorker } : State α).IsAttachable := fun i => by
  simp [State.frameCount, State.grantOf?]

lemma of_frames_eq (h : s.IsAttachable) (hframes : s'.frames = s.frames)
    (hlength : s'.entries.length = s.entries.length)
    (hgrant : ∀ i, s'.grantOf? i = s.grantOf? i) : s'.IsAttachable := by
  intro i
  rw [State.frameCount, hframes, hlength, hgrant]
  exact h i

/-- A step of a thread that neither begins a submission nor touches a grant. -/
lemma put (h : s.IsAttachable) {t : Thread} {fs : List Frame}
    (hframes : s'.frames = s.frames.put t fs)
    (hfs : ∀ i, fs.countP (·.submits? == some i) ≤ (s.stack t).countP (·.submits? == some i))
    (hlength : s'.entries.length = s.entries.length)
    (hgrant : ∀ i, s'.grantOf? i = s.grantOf? i) : s'.IsAttachable := by
  intro i
  have hcount := frameCount_put hframes (·.submits? == some i)
  have hi := h i
  have hle := hfs i
  rw [hlength, hgrant]
  omega

/-- A thread tells the task its grant and ends the submission. -/
lemma attach (h : s.IsAttachable) {t : Thread} {i g : Nat} {rest : List Frame}
    (htop : s.stack t = .granted i g :: rest) (hframes : s'.frames = s.frames.put t rest)
    (hlength : s'.entries.length = s.entries.length)
    (hgrant : ∀ j, s'.grantOf? j = if j = i then s.entries[i]?.bind fun _ => some g
      else s.grantOf? j) : s'.IsAttachable := by
  intro j
  have hcount := frameCount_put hframes (·.submits? == some j)
  have hj := h j
  rw [htop, List.countP_cons] at hcount
  rw [hgrant, hlength]
  by_cases hji : j = i
  · subst hji
    obtain ⟨hlt, hfree⟩ := h.of_mem (htop ▸ List.mem_cons_self) rfl
    rw [if_pos (by simp [Frame.submits?])] at hcount
    rw [hfree, Option.isSome_none, Bool.toNat_false] at hj
    rw [if_pos rfl, List.getElem?_eq_getElem hlt, Option.bind_some, Option.isSome_some,
      Bool.toNat_true]
    omega
  · rw [if_neg hji]
    omega

/-- A task that is marked finished has no grant any more. -/
lemma settle (h : s.IsAttachable) {t : Thread} {i : Nat} {fs : List Frame}
    (hframes : s'.frames = s.frames.put t fs)
    (hfs : ∀ i, fs.countP (·.submits? == some i) ≤ (s.stack t).countP (·.submits? == some i))
    (hlength : s'.entries.length = s.entries.length)
    (hgrant : ∀ j, s'.grantOf? j = if j = i then s.entries[i]?.bind fun _ => none
      else s.grantOf? j) : s'.IsAttachable := by
  intro j
  have hcount := frameCount_put hframes (·.submits? == some j)
  have hj := h j
  have hle := hfs j
  rw [hgrant, hlength]
  split
  · rw [Option.bind_fun_none, Option.isSome_none, Bool.toNat_false]
    omega
  · omega

/-- A task is registered, and its thread is in the middle of submitting it. -/
lemma register (h : s.IsAttachable) {t : Thread} {fs : List Frame}
    (hframes : s'.frames = s.frames.put t (.registered s.entries.length :: fs))
    (hfs : ∀ i, fs.countP (·.submits? == some i) = (s.stack t).countP (·.submits? == some i))
    (hlength : s'.entries.length = s.entries.length + 1)
    (hgrant : ∀ i, s'.grantOf? i = s.grantOf? i) : s'.IsAttachable := by
  intro i
  have hcount := frameCount_put hframes (·.submits? == some i)
  have hi := h i
  simp only [List.countP_cons, hfs, Frame.submits?_registered, beq_iff_eq, Option.some.injEq]
    at hcount
  rw [hgrant, hlength, one_if_lt_succ]
  omega

/-- Steps attach no second grant. -/
lemma step {e : Event α} (h : s.IsAttachable) (hstep : Transition p s e s') :
    s'.IsAttachable := by
  cases hstep with
  | fold => exact h.of_frames_eq rfl (by simp) (grantOf?_modify rfl fun _ => rfl)
  | receiveFlush | flushAlone | closeAlone => exact h
  | register | registerAlone =>
      exact h.register rfl (by simp [Frame.submits?]) (by simp) (grantOf?_append rfl)
  | receiveRun idle => exact h.put rfl (by simp [idle, Frame.submits?]) rfl fun _ => rfl
  | expire | flush | close => exact h.put rfl (by simp [Frame.submits?]) rfl fun _ => rfl
  | start top =>
      exact h.put rfl (by simp [top, Frame.submits?]) (by simp) (grantOf?_modify rfl fun _ => rfl)
  | attach top => exact h.attach top rfl (by simp) (grantOf?_modify_const rfl fun _ => rfl)
  | settleGranted top | settle top =>
      exact h.settle rfl (by simp [top, Frame.submits?]) (by simp)
        (grantOf?_modify_const rfl fun _ => rfl)
  | ask top | refuse top | grant top | attachLate top | acquire top | leave top | miss top
  | finish top | giveBack top | release top | resume top | resumeJoined top | returned top =>
      exact h.put rfl (by simp [top, List.countP_cons, Frame.submits?]) rfl fun _ => rfl

end State.IsAttachable

/-- The grant that a thread is to pass on, to its task or back to the platform. -/
def Frame.carries? : Frame → Option Nat
  | .granted _ g | .ending g => some g
  | _ => none

/-- Each grant that was handed out is carried by a thread, or a task has it, or it was given
back. -/
def State.IsConserved (s : State α) : Prop :=
  ∀ g, s.frameCount (·.carries? == some g) + s.entries.countP (·.grant == some g) +
    s.ended.count g = (s.grants.map Prod.fst).count g

/-- A change of one task takes its grant out and puts the new one in. -/
lemma countP_grant_modify {i : Nat} {f : Entry α → Entry α}
    (h : s'.entries = s.entries.modify i f) (g : Nat) :
    s'.entries.countP (·.grant == some g) + (if s.grantOf? i = some g then 1 else 0) =
      s.entries.countP (·.grant == some g) + if s'.grantOf? i = some g then 1 else 0 := by
  have hany (e : Option (Entry α)) (k : Entry α → Option Nat) :
      (e.any fun e => k e == some g).toNat = if e.bind k = some g then 1 else 0 := by
    cases e <;> simp [Bool.toNat, Bool.cond_eq_ite]
  have hmodify := countP_modify (·.grant == some g) f s.entries i
  rw [hany, hany _ fun e => (f e).grant, ← h] at hmodify
  rw [State.grantOf?, State.grantOf?, h, List.getElem?_modify_eq, Option.map_eq_map,
    Option.bind_map]
  exact h ▸ hmodify

/-- A change of one task that keeps its grant. -/
lemma countP_grant_eq {i : Nat} {f : Entry α → Entry α} (h : s'.entries = s.entries.modify i f)
    (hsame : ∀ j, s'.grantOf? j = s.grantOf? j) (g : Nat) :
    s'.entries.countP (·.grant == some g) = s.entries.countP (·.grant == some g) := by
  have hmodify := countP_grant_modify h g
  rw [hsame] at hmodify
  omega

namespace State.IsConserved

lemma start : ({ hasWorker := hasWorker } : State α).IsConserved := fun g => by
  simp [State.frameCount]

/-- A step after which as many grants are in hand, and as many are given back, as before, but for
those that are new. -/
lemma put (h : s.IsConserved) {t : Thread} {fs : List Frame}
    (hframes : s'.frames = s.frames.put t fs)
    (hsum : ∀ g, fs.countP (·.carries? == some g) + s'.entries.countP (·.grant == some g) +
        s'.ended.count g + (s.grants.map Prod.fst).count g =
      (s.stack t).countP (·.carries? == some g) + s.entries.countP (·.grant == some g) +
        s.ended.count g + (s'.grants.map Prod.fst).count g) : s'.IsConserved := by
  intro g
  have hcount := frameCount_put hframes (·.carries? == some g)
  have hg := h g
  have hsame := hsum g
  omega

lemma of_frames_eq (h : s.IsConserved) (hframes : s'.frames = s.frames)
    (hentries : ∀ g, s'.entries.countP (·.grant == some g) = s.entries.countP (·.grant == some g))
    (hended : s'.ended = s.ended) (hgrants : s'.grants = s.grants) : s'.IsConserved := by
  intro g
  rw [State.frameCount, hframes, hentries, hended, hgrants]
  exact h g

/-- A step of a thread that touches no grant. -/
lemma put_of_eq (h : s.IsConserved) {t : Thread} {fs : List Frame}
    (hframes : s'.frames = s.frames.put t fs)
    (hfs : ∀ g, fs.countP (·.carries? == some g) = (s.stack t).countP (·.carries? == some g))
    (hentries : ∀ g, s'.entries.countP (·.grant == some g) = s.entries.countP (·.grant == some g))
    (hended : s'.ended = s.ended) (hgrants : s'.grants = s.grants) : s'.IsConserved :=
  h.put hframes fun g => by rw [hfs, hentries, hended, hgrants]

/-- A thread tells a task its grant. -/
lemma attach (h : s.IsConserved) (hattachable : s.IsAttachable) {t : Thread} {i g : Nat}
    {rest : List Frame} {f : Entry α → Entry α} (htop : s.stack t = .granted i g :: rest)
    (hframes : s'.frames = s.frames.put t rest) (hentries : s'.entries = s.entries.modify i f)
    (hf : ∀ e, (f e).grant = some g) (hended : s'.ended = s.ended)
    (hgrants : s'.grants = s.grants) : s'.IsConserved := by
  refine h.put hframes fun g' => ?_
  obtain ⟨hlt, hfree⟩ := hattachable.of_mem (htop ▸ List.mem_cons_self) rfl
  have hnew : s'.grantOf? i = some g := by
    rw [grantOf?_modify_const hentries hf, if_pos rfl, List.getElem?_eq_getElem hlt,
      Option.bind_some]
  have hmodify := countP_grant_modify hentries g'
  rw [hfree, hnew, if_neg (by simp)] at hmodify
  rw [htop, hended, hgrants, List.countP_cons]
  simp only [Frame.carries?, beq_iff_eq] at hmodify ⊢
  omega

/-- A task is marked finished, and its thread is to give the grant back. -/
lemma settleGranted (h : s.IsConserved) {t : Thread} {i g : Nat} {rest : List Frame}
    {f : Entry α → Entry α} (htop : s.stack t = .settling i :: rest)
    (hhas : s.grantOf? i = some g)
    (hframes : s'.frames = s.frames.put t (.ending g :: .releasing :: rest))
    (hentries : s'.entries = s.entries.modify i f) (hf : ∀ e, (f e).grant = none)
    (hended : s'.ended = s.ended) (hgrants : s'.grants = s.grants) : s'.IsConserved := by
  refine h.put hframes fun g' => ?_
  have hnone : s'.grantOf? i = none := by
    rw [grantOf?_modify_const hentries hf, if_pos rfl, Option.bind_fun_none]
  have hmodify := countP_grant_modify hentries g'
  rw [hhas, hnone] at hmodify
  rw [htop, hended, hgrants, List.countP_cons, List.countP_cons, List.countP_cons]
  simp only [Frame.carries?, beq_iff_eq, reduceCtorEq, if_false] at hmodify ⊢
  omega

/-- A grant is handed out. -/
lemma grant (h : s.IsConserved) {t : Thread} {i g : Nat} {rest : List Frame}
    (htop : s.stack t = .asking i :: rest)
    (hframes : s'.frames = s.frames.put t (.granted i g :: rest))
    (hentries : s'.entries = s.entries) (hended : s'.ended = s.ended)
    (hgrants : s'.grants = s.grants ++ [(g, i)]) : s'.IsConserved := by
  refine h.put hframes fun g' => ?_
  rw [htop, hentries, hended, hgrants, List.map_append, List.count_append, List.countP_cons,
    List.countP_cons]
  simp only [Frame.carries?, List.map_cons, List.map_nil, List.count_singleton, beq_iff_eq,
    Option.some.injEq, reduceCtorEq, if_false]
  omega

/-- A grant is given back. -/
lemma giveBack (h : s.IsConserved) {t : Thread} {g : Nat} {rest : List Frame}
    (htop : s.stack t = .ending g :: rest) (hframes : s'.frames = s.frames.put t rest)
    (hentries : s'.entries = s.entries) (hended : s'.ended = s.ended ++ [g])
    (hgrants : s'.grants = s.grants) : s'.IsConserved := by
  refine h.put hframes fun g' => ?_
  rw [htop, hentries, hended, hgrants, List.count_append, List.countP_cons]
  simp only [Frame.carries?, List.count_singleton, beq_iff_eq, Option.some.injEq]
  omega

/-- Steps lose no grant and double none. -/
lemma step {e : Event α} (h : s.IsConserved) (hattachable : s.IsAttachable)
    (hstep : Transition p s e s') : s'.IsConserved := by
  cases hstep with
  | fold =>
      exact h.of_frames_eq rfl (countP_grant_eq rfl (grantOf?_modify rfl fun _ => rfl)) rfl rfl
  | receiveFlush | flushAlone | closeAlone => exact h
  | register | registerAlone =>
      exact h.put_of_eq rfl (by simp [Frame.carries?]) (by simp) rfl rfl
  | grant top => exact h.grant top rfl rfl rfl rfl
  | attach top => exact h.attach hattachable top rfl rfl (fun _ => rfl) rfl rfl
  | settleGranted top has => exact h.settleGranted top has rfl rfl (fun _ => rfl) rfl rfl
  | start top =>
      exact h.put_of_eq rfl (by simp [top, Frame.carries?])
        (countP_grant_eq rfl (grantOf?_modify rfl fun _ => rfl)) rfl rfl
  | settle top has =>
      exact h.put_of_eq rfl (by simp [top, Frame.carries?])
        (countP_grant_eq rfl (grantOf?_modify_none rfl (fun _ => rfl) has)) rfl rfl
  | giveBack top => exact h.giveBack top rfl rfl rfl rfl
  | receiveRun idle => exact h.put_of_eq rfl (by simp [idle, Frame.carries?]) (fun _ => rfl) rfl rfl
  | expire | flush | close =>
      exact h.put_of_eq rfl (by simp [Frame.carries?]) (fun _ => rfl) rfl rfl
  | ask top | refuse top | attachLate top | acquire top | leave top | miss top
  | finish top | release top | resume top | resumeJoined top | returned top =>
      exact h.put_of_eq rfl (by simp [top, List.countP_cons, Frame.carries?]) (fun _ => rfl) rfl rfl

end State.IsConserved

end TrackerGuard.Coalescer
