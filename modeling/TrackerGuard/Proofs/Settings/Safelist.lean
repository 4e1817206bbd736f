import Mathlib
import TrackerGuard.Settings.Safelist

/-!
# Runs of a safelist

A user changes the safelist by allowing and forbidding trackers on hosts; each change may fail in
the store, and is then none.  Whatever the changes and their outcomes, the resolver stays the same,
and every site that is added is the site of a host that was allowed (`mem_sites_run`).  In
particular a safelist that began empty holds no others.
-/

namespace TrackerGuard

lemma mem_sortedDistinct {text : String} {texts : List String} :
    text ∈ sortedDistinct texts ↔ text ∈ texts := by
  have hloop (a : String) (rest out : List String) :
      text ∈ List.eraseRepsBy.loop (· == ·) a rest out ↔ text = a ∨ text ∈ rest ∨ text ∈ out := by
    induction rest generalizing a out with
    | nil => simp [List.eraseRepsBy.loop, or_comm]
    | cons b rest ih =>
        rw [List.eraseRepsBy.loop.eq_2]
        by_cases hab : a = b
        · subst hab
          simp [ih, or_assoc]
        · rw [beq_eq_false_iff_ne.mpr hab, ih, List.mem_cons, List.mem_cons]
          tauto
  have hsort : text ∈ texts.mergeSort (fun a b => a ≤ b) ↔ text ∈ texts := List.mem_mergeSort
  rw [sortedDistinct, ← hsort]
  cases texts.mergeSort fun a b => a ≤ b with
  | nil => rfl
  | cons a rest =>
      rw [List.eraseReps, List.eraseRepsBy, hloop, List.mem_cons]
      simp

namespace Safelist

lemma mem_insertSite {site other : String} {sites : List String} :
    site ∈ insertSite other sites ↔ site = other ∨ site ∈ sites := by
  induction sites with
  | nil => simp [insertSite]
  | cons s rest ih =>
      rw [insertSite]
      split_ifs with hbefore heq
      · rw [List.mem_cons]
      · subst heq
        rw [List.mem_cons, ← or_assoc, or_self]
      · rw [List.mem_cons, ih, List.mem_cons, or_left_comm]

variable {σ : Type} [SettingsStore σ] {s : Safelist σ} {site : String}

/-! ## One change -/

/-- A change that a user asks for. -/
inductive Change where
  /-- Trackers on the site of a host are allowed. -/
  | allow (host : String)
  /-- Trackers on the site of a host are forbidden. -/
  | disallow (host : String)
  deriving DecidableEq, Repr

/-- The host that a change is about. -/
def Change.host : Change → String
  | .allow host | .disallow host => host

/-- Whether a change has something to do for its site. -/
def Change.IsDue (site : String) (sites : List String) : Change → Prop
  | .allow _ => site ≠ "" ∧ site ∉ sites
  | .disallow _ => site ∈ sites

/-- The sites after a change was made. -/
def Change.make (site : String) (sites : List String) : Change → List String
  | .allow _ => insertSite site sites
  | .disallow _ => sites.erase site

/-- The sites after a change was undone. -/
def Change.undo (site : String) (sites : List String) : Change → List String
  | .allow _ => sites.erase site
  | .disallow _ => insertSite site sites

/-- What a change comes to: its answer and the safelist after it. -/
def ask (s : Safelist σ) : Change → Except StoreError Bool × Safelist σ
  | .allow host => s.allow host
  | .disallow host => s.disallow host

/-- The safelist after a change was asked for, whether it failed or not. -/
def change (s : Safelist σ) : Change → Safelist σ
  | .allow host => (s.allow host).2
  | .disallow host => (s.disallow host).2

lemma change_eq_ask (s : Safelist σ) (c : Change) : s.change c = (s.ask c).2 := by
  cases c <;> rfl

section Ask

variable {c : Change} {store : σ} (hsite : s.resolver.registrable c.host = site)

include hsite

/-- A change that has nothing to do does nothing. -/
lemma ask_of_not_isDue (h : ¬ c.IsDue site s.sites) : s.ask c = (.ok false, s) := by
  subst hsite
  cases c with
  | allow host =>
      have hold : s.resolver.registrable host = "" ∨ s.resolver.registrable host ∈ s.sites := by
        by_contra hnew
        exact h (not_or.mp hnew)
      rw [ask, allow, if_pos hold]
  | disallow host =>
      have habsent : s.resolver.registrable host ∉ s.sites := h
      rw [ask, disallow, if_neg habsent]

/-- A change that has something to do is made if the sites can be stored. -/
lemma ask_of_set (h : c.IsDue site s.sites)
    (hset : SettingsStore.set s.store key (.texts (c.make site s.sites)) = (.ok (), store)) :
    s.ask c = (.ok true, { s with store := store, sites := c.make site s.sites }) := by
  subst hsite
  cases c with
  | allow host =>
      have hnew : ¬ (s.resolver.registrable host = "" ∨ s.resolver.registrable host ∈ s.sites) :=
        not_or.mpr h
      simp only [Change.make, Change.host] at hset ⊢
      simp only [ask, allow, if_neg hnew, persist, hset]
  | disallow host =>
      have hthere : s.resolver.registrable host ∈ s.sites := h
      simp only [Change.make, Change.host] at hset ⊢
      simp only [ask, disallow, if_pos hthere, persist, hset]

/-- A change that has something to do is undone if the sites cannot be stored. -/
lemma ask_of_set_error {e : StoreError} (h : c.IsDue site s.sites)
    (hset : SettingsStore.set s.store key (.texts (c.make site s.sites)) = (.error e, store)) :
    s.ask c =
      (.error e, { s with store := store, sites := c.undo site (c.make site s.sites) }) := by
  subst hsite
  cases c with
  | allow host =>
      have hnew : ¬ (s.resolver.registrable host = "" ∨ s.resolver.registrable host ∈ s.sites) :=
        not_or.mpr h
      simp only [Change.make, Change.undo, Change.host] at hset ⊢
      simp only [ask, allow, if_neg hnew, persist, hset]
  | disallow host =>
      have hthere : s.resolver.registrable host ∈ s.sites := h
      simp only [Change.make, Change.undo, Change.host] at hset ⊢
      simp only [ask, disallow, if_pos hthere, persist, hset]

/-- A change has nothing to do, or the store takes it and it is made, or the store refuses it and it
is undone. -/
lemma ask_cases :
    (¬ c.IsDue site s.sites ∧ s.ask c = (.ok false, s)) ∨
      c.IsDue site s.sites ∧ ∃ store,
        (SettingsStore.set s.store key (.texts (c.make site s.sites)) = (.ok (), store) ∧
          s.ask c = (.ok true, { s with store := store, sites := c.make site s.sites })) ∨
        ∃ e, SettingsStore.set s.store key (.texts (c.make site s.sites)) = (.error e, store) ∧
          s.ask c =
            (.error e, { s with store := store, sites := c.undo site (c.make site s.sites) }) := by
  by_cases hdue : c.IsDue site s.sites
  · refine .inr ⟨hdue, ?_⟩
    rcases hset : SettingsStore.set s.store key (.texts (c.make site s.sites)) with
      ⟨e | ⟨⟨⟩⟩, store⟩
    · exact ⟨store, .inr ⟨e, rfl, ask_of_set_error hsite hdue hset⟩⟩
    · exact ⟨store, .inl ⟨rfl, ask_of_set hsite hdue hset⟩⟩
  · exact .inl ⟨hdue, ask_of_not_isDue hsite hdue⟩

/-- A change does nothing, or gives the safelist another store and, for its sites, those with the
change made or undone again. -/
lemma change_cases :
    s.change c = s ∨
      c.IsDue site s.sites ∧
        ∃ store sites, s.change c = { s with store := store, sites := sites } ∧
          (sites = c.make site s.sites ∨ sites = c.undo site (c.make site s.sites)) := by
  rw [change_eq_ask]
  rcases ask_cases hsite with ⟨-, hask⟩ | ⟨hdue, store, ⟨-, hask⟩ | ⟨e, -, hask⟩⟩
  · exact .inl (by rw [hask])
  · exact .inr ⟨hdue, store, _, by rw [hask], .inl rfl⟩
  · exact .inr ⟨hdue, store, _, by rw [hask], .inr rfl⟩

end Ask

lemma resolver_change (s : Safelist σ) (c : Change) : (s.change c).resolver = s.resolver := by
  rcases change_cases (s := s) (c := c) rfl with h | ⟨-, store, sites, h, -⟩
  · rw [h]
  · rw [h]

/-- A change leaves the store alone or sets the sites in it. -/
lemma store_change_cases (s : Safelist σ) (c : Change) :
    (s.change c).store = s.store ∨
      ∃ sites, (s.change c).store = (SettingsStore.set s.store key (.texts sites)).2 := by
  rw [change_eq_ask]
  rcases ask_cases (s := s) (c := c) rfl with
    ⟨-, hask⟩ | ⟨-, store, ⟨hset, hask⟩ | ⟨e, hset, hask⟩⟩
  · exact .inl (by rw [hask])
  · exact .inr ⟨_, by rw [hask, hset]⟩
  · exact .inr ⟨_, by rw [hask, hset]⟩

/-- A change adds no other site than that of the host it allows. -/
lemma mem_sites_change {c : Change} (h : site ∈ (s.change c).sites) :
    site ∈ s.sites ∨ ∃ host, c = .allow host ∧ s.resolver.registrable host = site := by
  obtain ⟨own, hown⟩ : ∃ own, s.resolver.registrable c.host = own := ⟨_, rfl⟩
  rcases change_cases hown with hsame | ⟨hdue, store, sites, hchange, hsites⟩
  · rw [hsame] at h
    exact .inl h
  · have hmem : site ∈ sites := by rwa [hchange] at h
    cases c with
    | allow host =>
        have hinsert : site ∈ insertSite own s.sites := by
          rcases hsites with rfl | rfl
          · exact hmem
          · exact List.mem_of_mem_erase hmem
        rcases mem_insertSite.mp hinsert with rfl | hold
        · exact .inr ⟨host, rfl, hown⟩
        · exact .inl hold
    | disallow host =>
        left
        rcases hsites with rfl | rfl
        · exact List.mem_of_mem_erase hmem
        · -- The site that is put in again was there before.
          have hinsert : site = own ∨ site ∈ s.sites.erase own := mem_insertSite.mp hmem
          rcases hinsert with rfl | herase
          · exact hdue
          · exact List.mem_of_mem_erase herase

/-! ## Many changes -/

/-- The safelist after changes were asked for one after another. -/
def run (s : Safelist σ) (changes : List Change) : Safelist σ := changes.foldl change s

lemma resolver_run (s : Safelist σ) (changes : List Change) :
    (s.run changes).resolver = s.resolver := by
  induction changes generalizing s with
  | nil => rfl
  | cons c changes ih =>
      rw [run, List.foldl_cons, ← run, ih, resolver_change]

/-- A run adds no other sites than those of the hosts that were allowed in it. -/
theorem mem_sites_run {changes : List Change} (h : site ∈ (s.run changes).sites) :
    site ∈ s.sites ∨
      ∃ host, Change.allow host ∈ changes ∧ s.resolver.registrable host = site := by
  induction changes generalizing s with
  | nil => exact .inl h
  | cons c changes ih =>
      rw [run, List.foldl_cons, ← run] at h
      rcases ih h with hchange | ⟨host, hhost, hsite⟩
      · rcases mem_sites_change hchange with hsite | ⟨host, rfl, hsite⟩
        · exact .inl hsite
        · exact .inr ⟨host, List.mem_cons_self, hsite⟩
      · rw [resolver_change] at hsite
        exact .inr ⟨host, List.mem_cons_of_mem _ hhost, hsite⟩

/-- A safelist whose store has nothing under its key is empty. -/
lemma sites_load {store : σ} (resolver : Resolver) (h : SettingsStore.get? store key = none) :
    (load store resolver).sites = [] := by
  rw [load, h]

/-- The sites of a safelist that began empty are those of hosts that were allowed. -/
theorem mem_sites_run_load {store : σ} {resolver : Resolver} {changes : List Change}
    (hempty : SettingsStore.get? store key = none)
    (h : site ∈ ((load store resolver).run changes).sites) :
    ∃ host, Change.allow host ∈ changes ∧ resolver.registrable host = site := by
  rcases mem_sites_run h with hsite | hallowed
  · rw [sites_load resolver hempty] at hsite
    exact absurd hsite List.not_mem_nil
  · exact hallowed

end Safelist

end TrackerGuard
