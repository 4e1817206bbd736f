import Mathlib
import TrackerGuard.Proofs.Settings.FileStore
import TrackerGuard.Proofs.Settings.Safelist
import TrackerGuard.Proofs.Text.ByteOrder

/-!
# The safelist and what is stored of it

Whatever a store had under the key of the safelist, and however its writes went since then, the
sites are in ascending order, each once, and none of them is empty (`isProper_run`).  So a change
that is undone leaves the very list that was there before it: the two lists have the same members
and both are in order.

A change therefore does one of three things (`change_written_or_undone`).  It has nothing to do; or
it is made in memory and in the store; or the store refuses it with an error, which is the answer,
and everything is as it was.  Of the store no more is asked than `KeepsWrites` says.
-/

namespace TrackerGuard

/-! ## Sites in order -/

/-- Without its repetitions a list in order is strictly ascending.  `a` is the text before `rest`,
and the texts of `out`, which are backwards, lie below it. -/
lemma pairwise_lt_eraseReps_loop {a : String} {rest out : List String}
    (hrest : (a :: rest).Pairwise (· ≤ ·)) (hout : (a :: out).Pairwise (· > ·)) :
    (List.eraseRepsBy.loop (· == ·) a rest out).Pairwise (· < ·) := by
  induction rest generalizing a out with
  | nil =>
      rw [List.eraseRepsBy.loop.eq_1]
      exact List.pairwise_reverse.mpr hout
  | cons b rest ih =>
      obtain ⟨hfirst, htail⟩ := List.pairwise_cons.mp hrest
      rw [List.eraseRepsBy.loop.eq_2]
      by_cases hab : a = b
      · subst hab
        simp only [beq_self_eq_true]
        exact ih htail hout
      · have hlt : a < b := lt_of_le_of_ne (hfirst b List.mem_cons_self) hab
        rw [beq_eq_false_iff_ne.mpr hab]
        refine ih htail (List.pairwise_cons.mpr ⟨?_, hout⟩)
        intro c hc
        rcases List.mem_cons.mp hc with rfl | hc
        · exact hlt
        · exact ((List.pairwise_cons.mp hout).1 c hc).trans hlt

lemma pairwise_sortedDistinct (texts : List String) : (sortedDistinct texts).Pairwise (· < ·) := by
  have hsorted : (texts.mergeSort fun a b => a ≤ b).Pairwise (· ≤ ·) :=
    List.pairwise_mergeSort' (· ≤ ·) texts
  rw [sortedDistinct]
  cases hmerged : texts.mergeSort fun a b => a ≤ b with
  | nil => exact List.Pairwise.nil
  | cons a rest =>
      rw [hmerged] at hsorted
      exact pairwise_lt_eraseReps_loop hsorted (List.pairwise_singleton _ a)

namespace Safelist

lemma pairwise_insertSite {sites : List String} (h : sites.Pairwise (· < ·)) (site : String) :
    (insertSite site sites).Pairwise (· < ·) := by
  induction sites with
  | nil => exact List.pairwise_singleton _ site
  | cons s rest ih =>
      obtain ⟨hfirst, hrest⟩ := List.pairwise_cons.mp h
      rw [insertSite]
      split_ifs with hbefore heq
      · refine List.pairwise_cons.mpr ⟨?_, h⟩
        intro other hother
        rcases List.mem_cons.mp hother with rfl | hother
        · exact hbefore
        · exact hbefore.trans (hfirst other hother)
      · exact h
      · refine List.pairwise_cons.mpr ⟨?_, ih hrest⟩
        intro other hother
        rcases mem_insertSite.mp hother with rfl | hother
        · exact lt_of_le_of_ne (not_lt.mp hbefore) (Ne.symm heq)
        · exact hfirst other hother

namespace Change

variable {site : String} {sites : List String} {c : Change}

lemma pairwise_make (h : sites.Pairwise (· < ·)) (c : Change) :
    (c.make site sites).Pairwise (· < ·) := by
  cases c with
  | allow host => exact pairwise_insertSite h site
  | disallow host => exact h.sublist List.erase_sublist

lemma pairwise_undo (h : sites.Pairwise (· < ·)) (c : Change) :
    (c.undo site sites).Pairwise (· < ·) := by
  cases c with
  | allow host => exact h.sublist List.erase_sublist
  | disallow host => exact pairwise_insertSite h site

/-- A change that has something to do changes the place of its site, and of no other. -/
lemma mem_make_iff (h : sites.Pairwise (· < ·)) (hdue : c.IsDue site sites) {other : String} :
    other ∈ c.make site sites ↔ if other = site then site ∉ sites else other ∈ sites := by
  cases c with
  | allow host =>
      have hnew : site ∉ sites := hdue.2
      rw [make, mem_insertSite]
      by_cases heq : other = site <;> simp [heq, hnew]
  | disallow host =>
      have hthere : site ∈ sites := hdue
      have hnodup : sites.Nodup := h.imp ne_of_lt
      rw [make, hnodup.mem_erase_iff]
      by_cases heq : other = site <;> simp [heq, hthere]

/-- A change that is undone leaves the sites as they were. -/
lemma undo_make (h : sites.Pairwise (· < ·)) (hdue : c.IsDue site sites) :
    c.undo site (c.make site sites) = sites := by
  have hmade : (c.make site sites).Pairwise (· < ·) := pairwise_make h c
  refine (pairwise_undo hmade c).eq_of_mem_iff h fun other => ?_
  have hmake : other ∈ c.make site sites ↔ if other = site then site ∉ sites else other ∈ sites :=
    mem_make_iff h hdue
  cases c with
  | allow host =>
      have hnew : site ∉ sites := hdue.2
      have hnodup := hmade.imp ne_of_lt
      rw [undo, List.Nodup.mem_erase_iff hnodup, hmake]
      by_cases heq : other = site <;> simp [heq, hnew]
  | disallow host =>
      have hthere : site ∈ sites := hdue
      rw [undo, mem_insertSite, hmake]
      by_cases heq : other = site <;> simp [heq, hthere]

end Change

/-! ## Every run -/

variable {σ : Type} [SettingsStore σ] {s : Safelist σ} {c : Change} {site : String}

/-- The sites are in order, each once, and none is empty. -/
structure IsProper (s : Safelist σ) : Prop where
  ascending : s.sites.Pairwise (· < ·)
  not_mem_empty : "" ∉ s.sites

/-- Whatever is stored, a safelist that is loaded is proper. -/
lemma isProper_load (store : σ) (resolver : Resolver) : (load store resolver).IsProper := by
  unfold load
  split
  · next items _ =>
      refine ⟨pairwise_sortedDistinct _, ?_⟩
      intro hempty
      rw [sitesOf, mem_sortedDistinct] at hempty
      simp at hempty
  · exact ⟨List.Pairwise.nil, List.not_mem_nil⟩

/-- A change that is due puts no empty site into the safelist. -/
lemma Change.not_mem_empty_make {sites : List String} (h : "" ∉ sites) (hdue : c.IsDue site sites) :
    "" ∉ c.make site sites := by
  cases c with
  | allow host =>
      intro hempty
      rcases mem_insertSite.mp hempty with heq | hold
      · exact hdue.1 heq.symm
      · exact h hold
  | disallow host => exact fun hempty => h (List.mem_of_mem_erase hempty)

lemma IsProper.change (h : s.IsProper) (c : Change) : (s.change c).IsProper := by
  obtain ⟨site, hsite⟩ : ∃ site, s.resolver.registrable c.host = site := ⟨_, rfl⟩
  rcases change_cases hsite with hsame | ⟨hdue, store, sites, hchange, rfl | rfl⟩
  · rwa [hsame]
  · rw [hchange]
    exact ⟨Change.pairwise_make h.ascending c, Change.not_mem_empty_make h.not_mem_empty hdue⟩
  · rw [hchange, Change.undo_make h.ascending hdue]
    exact ⟨h.ascending, h.not_mem_empty⟩

/-- The safelist is proper after every run. -/
theorem isProper_run (store : σ) (resolver : Resolver) (changes : List Change) :
    ((load store resolver).run changes).IsProper := by
  induction changes using List.reverseRecOn with
  | nil => exact isProper_load store resolver
  | append_singleton changes c ih =>
      rw [run, List.foldl_append, ← run]
      exact ih.change c

/-- What the safelist asks of a store: a value that is set is found under its key, and a value that
cannot be set changes nothing. -/
class KeepsWrites (σ : Type) [SettingsStore σ] : Prop where
  get?_set {s s' : σ} {k : String} {v : Json} :
    SettingsStore.set s k v = (.ok (), s') → SettingsStore.get? s' k = some v
  get?_set_error {s s' : σ} {k : String} {v : Json} {e : StoreError} :
    SettingsStore.set s k v = (.error e, s') →
      ∀ key, SettingsStore.get? s' key = SettingsStore.get? s key

instance [LawfulStore σ] : KeepsWrites σ where
  get?_set {s s' k v} h := by
    rw [LawfulStore.get?_set h k, if_pos rfl]
  get?_set_error := LawfulStore.get?_set_error

/-! ## Made or undone -/

section Outcome

variable [KeepsWrites σ]

/-- A change that is written is made in memory and in the store. -/
lemma stored_of_ask (hsite : s.resolver.registrable c.host = site)
    (hdone : (s.ask c).1 = .ok true) :
    c.IsDue site s.sites ∧ (s.ask c).2.sites = c.make site s.sites ∧
      SettingsStore.get? (s.ask c).2.store key = some (.texts (c.make site s.sites)) := by
  rcases ask_cases hsite with ⟨-, hask⟩ | ⟨hdue, store, ⟨hset, hask⟩ | ⟨e, -, hask⟩⟩
  · rw [hask] at hdone
    cases hdone
  · rw [hask]
    exact ⟨hdue, rfl, KeepsWrites.get?_set hset⟩
  · rw [hask] at hdone
    cases hdone

/-- A change that is not made changes neither the sites nor what is stored. -/
lemma unchanged_of_ask (h : s.IsProper) (hsite : s.resolver.registrable c.host = site)
    (hundone : (s.ask c).1 ≠ .ok true) :
    (s.ask c).2.sites = s.sites ∧
      ∀ k, SettingsStore.get? (s.ask c).2.store k = SettingsStore.get? s.store k := by
  rcases ask_cases hsite with ⟨-, hask⟩ | ⟨hdue, store, ⟨-, hask⟩ | ⟨e, hset, hask⟩⟩
  · rw [hask]
    exact ⟨rfl, fun _ => rfl⟩
  · rw [hask] at hundone
    exact absurd rfl hundone
  · rw [hask]
    exact ⟨Change.undo_make h.ascending hdue, KeepsWrites.get?_set_error hset⟩

end Outcome

/-- The answer to a change is that of the store, if the change has something to do. -/
lemma answer_eq (hsite : s.resolver.registrable c.host = site) (answer : Except StoreError Bool) :
    (s.ask c).1 = answer ↔
      (¬ c.IsDue site s.sites ∧ answer = .ok false) ∨
        c.IsDue site s.sites ∧ answer =
          (SettingsStore.set s.store key (.texts (c.make site s.sites))).1.map fun _ => true := by
  rcases ask_cases hsite with ⟨hdue, hask⟩ | ⟨hdue, store, ⟨hset, hask⟩ | ⟨e, hset, hask⟩⟩
  · rw [hask]
    simp [hdue, eq_comm]
  · rw [hask, hset]
    simp [hdue, Except.map, eq_comm]
  · rw [hask, hset]
    simp [hdue, Except.map, eq_comm]

/-- After every run the sites are in the order of their bytes, each once, and none is empty.  Then a
change is answered with `true` exactly when it has something to do and the store takes it; it
changes the place of its site and of no other, and the store has the list of the sites.  Otherwise
neither the sites nor anything stored changes, and an error of the store is the answer. -/
theorem change_written_or_undone [KeepsWrites σ] {store : σ} {resolver : Resolver}
    {changes : List Change} (hrun : (load store resolver).run changes = s)
    (hsite : resolver.registrable c.host = site) :
    (s.sites.Pairwise fun a b => Text.bytes a < Text.bytes b) ∧ "" ∉ s.sites ∧
      ((s.ask c).1 = .ok true ↔ c.IsDue site s.sites ∧
        (SettingsStore.set s.store key (.texts (c.make site s.sites))).1 = .ok ()) ∧
      ((s.ask c).1 = .ok true →
        (∀ other, other ∈ (s.ask c).2.sites ↔
          if other = site then site ∉ s.sites else other ∈ s.sites) ∧
        SettingsStore.get? (s.ask c).2.store key = some (.texts (s.ask c).2.sites)) ∧
      ((s.ask c).1 ≠ .ok true →
        (s.ask c).2.sites = s.sites ∧
          ∀ k, SettingsStore.get? (s.ask c).2.store k = SettingsStore.get? s.store k) ∧
      ∀ e, (s.ask c).1 = .error e ↔ c.IsDue site s.sites ∧
        (SettingsStore.set s.store key (.texts (c.make site s.sites))).1 = .error e := by
  have hproper : s.IsProper := hrun ▸ isProper_run store resolver changes
  have hown : s.resolver.registrable c.host = site := by
    rw [← hrun, resolver_run]
    exact hsite
  refine ⟨?_, hproper.not_mem_empty, ?_, ?_, unchanged_of_ask hproper hown, ?_⟩
  · exact hproper.ascending.imp Text.lt_iff_bytes_lt.mp
  · rw [answer_eq hown]
    cases (SettingsStore.set s.store key (.texts (c.make site s.sites))).1 <;> simp [Except.map]
  · intro hdone
    obtain ⟨hdue, hsites, hstored⟩ := stored_of_ask hown hdone
    rw [hsites]
    exact ⟨fun other => Change.mem_make_iff hproper.ascending hdue, hstored⟩
  · intro e
    rw [answer_eq hown]
    cases (SettingsStore.set s.store key (.texts (c.make site s.sites))).1 <;>
      simp [Except.map, eq_comm]

/-- A store that has three items for the safelist, of which only the first one names a site, on a
disk that is full at the second text to come. -/
def crowdedSites : FileStore FileStore.CrowdedShelf :=
  ⟨[(key, .list [.text "WWW.b.org", .null, .text ""])], ⟨{}, [false, true]⟩⟩

/-- The safelist after a site was allowed and another one, which could not be stored, forbidden. -/
def crowdedRun : Safelist (FileStore FileStore.CrowdedShelf) :=
  (load crowdedSites .builtIn).run [.allow "M.a.com", .disallow "b.org"]

/-- The site that could not be taken out is taken out when that is asked for again. -/
theorem change_written_after_refusal :
    (load crowdedSites .builtIn).run [.allow "M.a.com", .disallow "b.org"] = crowdedRun ∧
      Resolver.builtIn.registrable "x.b.org" = "b.org" ∧
      crowdedRun.sites = ["a.com", "b.org"] ∧
      "a.com" ∈ (crowdedRun.ask (.disallow "x.b.org")).2.sites ∧
      "b.org" ∉ (crowdedRun.ask (.disallow "x.b.org")).2.sites := by
  have hrun : (load crowdedSites .builtIn).run [.allow "M.a.com", .disallow "b.org"] = crowdedRun :=
    rfl
  have hsite : Resolver.builtIn.registrable "x.b.org" = "b.org" := by decide
  have hsites : crowdedRun.sites = ["a.com", "b.org"] := by decide +kernel
  obtain ⟨-, -, htrue, hmade, -, -⟩ :=
    change_written_or_undone (c := .disallow "x.b.org") hrun hsite
  have hdue : Change.IsDue "b.org" crowdedRun.sites (.disallow "x.b.org") := by
    rw [hsites]
    exact List.mem_cons_of_mem _ List.mem_cons_self
  have hset : (SettingsStore.set crowdedRun.store key
      (.texts (Change.make "b.org" crowdedRun.sites (.disallow "x.b.org")))).1 = .ok () := by
    decide +kernel
  obtain ⟨hmem, -⟩ := hmade (htrue.mpr ⟨hdue, hset⟩)
  refine ⟨hrun, hsite, hsites, ?_, ?_⟩
  · rw [hmem, hsites]
    decide
  · rw [hmem, hsites]
    decide

end Safelist

end TrackerGuard
