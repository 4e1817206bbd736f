import Mathlib
import TrackerGuard.Proofs.Settings.WriteThrough
import TrackerGuard.Proofs.Site.Projection

/-!
# Restarts

A program that ends and starts again opens its file and loads the safelist from it.  The store it
opens is the one it had, so what is stored are the sites it had; but loading normalizes each of them
once more.

That is harmless for a site with plain ends, that is, without blanks and full stops there
(`IsSettled`).  Blanks are taken off a host before full stops are, once each, and then its labels
are cut, so a site may well begin with a blank or with a full stop: `. a.com` is stored with its
blank, and `a..com` as `.com`.  Such a site gets shorter when it is loaded
(`length_registrable_lt`), and the longest one of them is then the site of no other.  Hence a
restart changes no answer exactly when all sites have plain ends (`restart_changes_nothing_iff`),
and the requests of a user get the same answers from one process each as from a single one as long
as only such sites are allowed.
-/

namespace TrackerGuard

open Text

namespace Safelist

/-! ## What is loaded again -/

lemma filterMap_text?_map_text (sites : List String) :
    (sites.map Json.text).filterMap Json.text? = sites := by
  rw [List.filterMap_map]
  exact List.filterMap_some

lemma mem_sitesOf_texts {resolver : Resolver} {sites : List String} {site : String} :
    site ∈ sitesOf resolver (sites.map Json.text) ↔
      (∃ old ∈ sites, resolver.registrable old = site) ∧ site ≠ "" := by
  rw [sitesOf, mem_sortedDistinct, filterMap_text?_map_text]
  simp

/-- The sites of a safelist are loaded as they were exactly when all of them have plain ends. -/
lemma sitesOf_texts_eq_iff {resolver : Resolver} {sites : List String}
    (hascending : sites.Pairwise (· < ·)) (hempty : "" ∉ sites)
    (hsites : ∀ site ∈ sites, ∃ host, resolver.registrable host = site) :
    sitesOf resolver (sites.map Json.text) = sites ↔ ∀ site ∈ sites, IsSettled site := by
  constructor
  · intro heq
    by_contra hunsettled
    let unsettled := sites.toFinset.filter fun site => ¬ IsSettled site
    have hmem {site : String} : site ∈ unsettled ↔ site ∈ sites ∧ ¬ IsSettled site := by
      simp [unsettled]
    have hnonempty : unsettled.Nonempty := by
      obtain ⟨site, hsite, hends⟩ : ∃ site ∈ sites, ¬ IsSettled site := by simpa using hunsettled
      exact ⟨site, hmem.mpr ⟨hsite, hends⟩⟩
    -- The longest of the sites without plain ends is the site of one of them, which is longer.
    obtain ⟨longest, hlongest, hmax⟩ :=
      unsettled.exists_max_image (fun site => site.toList.length) hnonempty
    obtain ⟨hthere, hends⟩ := hmem.mp hlongest
    rw [← heq, mem_sitesOf_texts] at hthere
    obtain ⟨⟨old, hold, hsite⟩, -⟩ := hthere
    obtain ⟨host, hhost⟩ := hsites old hold
    by_cases hsettled : IsSettled old
    · rw [Resolver.registrable_eq_self hhost hsettled] at hsite
      exact hends (hsite ▸ hsettled)
    · have hshorter := Resolver.length_registrable_lt hhost hsettled
      have hle := hmax old (hmem.mpr ⟨hold, hsettled⟩)
      rw [hsite] at hshorter
      omega
  · intro hsettled
    refine (pairwise_sortedDistinct _).eq_of_mem_iff hascending fun site => ?_
    rw [← sitesOf, mem_sitesOf_texts]
    constructor
    · rintro ⟨⟨old, hold, rfl⟩, -⟩
      obtain ⟨host, hhost⟩ := hsites old hold
      rwa [Resolver.registrable_eq_self hhost (hsettled old hold)]
    · intro hsite
      obtain ⟨host, hhost⟩ := hsites site hsite
      refine ⟨⟨site, hsite, Resolver.registrable_eq_self hhost (hsettled site hsite)⟩, ?_⟩
      rintro rfl
      exact hempty hsite

/-! ## One restart -/

variable {φ : Type} [TextFile φ] {s : Safelist (FileStore φ)} {c : Change}

/-- A safelist whose store is in its file, and what its store has under the key are its sites. -/
structure IsKept (s : Safelist (FileStore φ)) : Prop extends IsProper s where
  agrees : s.store.Agrees
  stored : SettingsStore.get? s.store key = some (.texts s.sites) ∨
    SettingsStore.get? s.store key = none ∧ s.sites = []
  sites_of_hosts : ∀ site ∈ s.sites, ∃ host, s.resolver.registrable host = site

/-- Ends the program and starts it again: the file is opened and the safelist loaded. -/
def restart (s : Safelist (FileStore φ)) : Except StoreError (Safelist (FileStore φ)) :=
  (FileStore.ofFile? s.store.file).map (load · s.resolver)

lemma restart_eq (h : s.IsKept) : s.restart = .ok (load s.store s.resolver) := by
  have hopen : FileStore.ofFile? s.store.file = .ok s.store :=
    FileStore.ofFile?_eq_ok_iff.mpr ⟨h.agrees.valuesOf, rfl⟩
  rw [restart, hopen]
  rfl

/-- A kept safelist is loaded with the sites of its sites. -/
lemma sites_load_store (h : s.IsKept) :
    (load s.store s.resolver).sites = sitesOf s.resolver (s.sites.map Json.text) := by
  rcases h.stored with hstored | ⟨hstored, hsites⟩
  · rw [load, hstored]
    rfl
  · rw [sites_load s.resolver hstored, hsites]
    simp [sitesOf, sortedDistinct, List.eraseReps, List.eraseRepsBy]

/-- A kept safelist is loaded with its own sites exactly when all of them have plain ends. -/
lemma sites_load_store_eq_iff (h : s.IsKept) :
    (load s.store s.resolver).sites = s.sites ↔ ∀ site ∈ s.sites, IsSettled site := by
  rw [sites_load_store h, sitesOf_texts_eq_iff h.ascending h.not_mem_empty h.sites_of_hosts]

/-- A safelist all of whose sites have plain ends is loaded as it is. -/
lemma load_eq_self (h : s.IsKept) (hsettled : ∀ site ∈ s.sites, IsSettled site) :
    load s.store s.resolver = s := by
  have hsites := (sites_load_store_eq_iff h).mpr hsettled
  obtain ⟨store, resolver, sites⟩ := s
  simp only at hsites
  rw [← hsites]
  rfl

/-- A store without values has none for the safelist. -/
lemma get?_eq_none {store : FileStore φ} (h : store.values = []) :
    SettingsStore.get? store key = none := by
  change store.values.find? key = none
  rw [h]
  rfl

lemma isKept_load [LawfulTextFile φ] {file : φ} {store : FileStore φ} (resolver : Resolver)
    (hopen : FileStore.ofFile? file = .ok store) (hempty : store.values = []) :
    (load store resolver).IsKept where
  toIsProper := isProper_load store resolver
  agrees := by
    obtain ⟨hvalues, rfl⟩ := FileStore.ofFile?_eq_ok_iff.mp hopen
    have hwhole : ∀ e ∈ store.values, Json.IsWhole e.2 := by simp [hempty]
    exact ⟨FileStore.keepable_of_ofFile? hopen hwhole, hvalues⟩
  stored := .inr ⟨get?_eq_none hempty, sites_load resolver (get?_eq_none hempty)⟩
  sites_of_hosts := by
    rw [sites_load resolver (get?_eq_none hempty)]
    simp

lemma IsKept.change [LawfulTextFile φ] (h : s.IsKept) (c : Change) : (s.change c).IsKept where
  toIsProper := h.toIsProper.change c
  agrees := by
    rcases s.store_change_cases c with hsame | ⟨sites, hset⟩
    · rw [hsame]
      exact h.agrees
    · rw [hset]
      have hkeepable : (FileStore.Operation.set key (.texts sites)).IsKeepable :=
        ⟨Json.fits_texts 125 sites, Json.isWhole_texts sites⟩
      exact h.agrees.perform hkeepable
  stored := by
    rw [change_eq_ask]
    by_cases hdone : (s.ask c).1 = .ok true
    · obtain ⟨-, hsites, hstored⟩ := stored_of_ask rfl hdone
      rw [hsites]
      exact .inl hstored
    · obtain ⟨hsites, hstored⟩ := unchanged_of_ask h.toIsProper rfl hdone
      rw [hsites, hstored]
      exact h.stored
  sites_of_hosts := by
    intro site hsite
    rw [resolver_change]
    rcases mem_sites_change hsite with hold | ⟨host, -, hhost⟩
    · exact h.sites_of_hosts site hold
    · exact ⟨host, hhost⟩

/-! ## Requests -/

/-- What a user asks for. -/
inductive Request where
  /-- A change of the safelist. -/
  | change (c : Change)
  /-- Whether trackers are allowed on the site of a host. -/
  | contains (host : String)
  /-- All sites. -/
  | all

/-- What a user is told. -/
inductive Answer where
  | changed (result : Except StoreError Bool)
  | contained (result : Bool)
  | sites (all : List String)
  deriving DecidableEq

section Requests

variable {σ : Type} [SettingsStore σ]

/-- The answer to a request. -/
def answer (s : Safelist σ) : Request → Answer
  | .change c => .changed (s.ask c).1
  | .contains host => .contained (s.contains host)
  | .all => .sites s.sites

/-- The safelist after a request. -/
def obey (s : Safelist σ) : Request → Safelist σ
  | .change c => s.change c
  | .contains _ | .all => s

/-- The answers to requests, one after another. -/
def answers (s : Safelist σ) : List Request → List Answer
  | [] => []
  | c :: requests => s.answer c :: answers (s.obey c) requests

/-- The safelist after requests. -/
def obeyAll (s : Safelist σ) (requests : List Request) : Safelist σ := requests.foldl obey s

lemma answers_append (s : Safelist σ) (requests later : List Request) :
    s.answers (requests ++ later) = s.answers requests ++ (s.obeyAll requests).answers later := by
  induction requests generalizing s with
  | nil => rfl
  | cons c requests ih =>
      rw [List.cons_append, answers, ih, answers, List.cons_append]
      rfl

lemma resolver_obeyAll (s : Safelist σ) (requests : List Request) :
    (s.obeyAll requests).resolver = s.resolver := by
  induction requests generalizing s with
  | nil => rfl
  | cons c requests ih =>
      rw [obeyAll, List.foldl_cons, ← obeyAll, ih]
      cases c with
      | change c => exact s.resolver_change c
      | contains host => rfl
      | all => rfl

end Requests

/-- Commands that allow no other sites than such with plain ends. -/
def AllowsSettled (resolver : Resolver) (requests : List Request) : Prop :=
  ∀ host, .change (.allow host) ∈ requests → IsSettled (resolver.registrable host)

lemma IsKept.obeyAll [LawfulTextFile φ] (h : s.IsKept) (requests : List Request) :
    (s.obeyAll requests).IsKept := by
  induction requests generalizing s with
  | nil => exact h
  | cons c requests ih =>
      cases c with
      | change c => exact ih (h.change c)
      | contains host => exact ih h
      | all => exact ih h

/-- The sites keep their plain ends when no others are allowed. -/
lemma settled_obeyAll {requests : List Request} (h : ∀ site ∈ s.sites, IsSettled site)
    (hallowed : AllowsSettled s.resolver requests) :
    ∀ site ∈ (s.obeyAll requests).sites, IsSettled site := by
  induction requests generalizing s with
  | nil => exact h
  | cons c requests ih =>
      have hlater : ∀ host, .change (.allow host) ∈ requests →
          IsSettled (s.resolver.registrable host) :=
        fun host hhost => hallowed host (List.mem_cons_of_mem c hhost)
      cases c with
      | change c =>
          refine ih ?_ ?_
          · intro site hsite
            rcases mem_sites_change hsite with hold | ⟨host, rfl, rfl⟩
            · exact h site hold
            · exact hallowed host List.mem_cons_self
          · rw [AllowsSettled, Safelist.obey, resolver_change]
            exact hlater
      | contains host => exact ih h hlater
      | all => exact ih h hlater

/-- The answers of processes that get some requests each, and the safelist after them.  Each process
leaves a file behind that the next one opens. -/
def processes (s : Safelist (FileStore φ)) :
    List (List Request) → Except StoreError (List Answer × Safelist (FileStore φ))
  | [] => .ok ([], s)
  | requests :: later => do
    let restarted ← (s.obeyAll requests).restart
    let (answers, last) ← processes restarted later
    pure (s.answers requests ++ answers, last)

/-- Processes give the answers of one process when all sites that are allowed have plain ends. -/
lemma processes_eq [LawfulTextFile φ] {groups : List (List Request)} (h : s.IsKept)
    (hsettled : ∀ site ∈ s.sites, IsSettled site)
    (hallowed : AllowsSettled s.resolver groups.flatten) :
    s.processes groups = .ok (s.answers groups.flatten, s.obeyAll groups.flatten) := by
  induction groups generalizing s with
  | nil => rfl
  | cons requests groups ih =>
      have hkept := h.obeyAll requests
      have hnow : AllowsSettled s.resolver requests := fun host hhost =>
        hallowed host (List.mem_append_left _ hhost)
      have hends := settled_obeyAll hsettled hnow
      have hrestart : (s.obeyAll requests).restart = .ok (s.obeyAll requests) := by
        rw [restart_eq hkept, load_eq_self hkept hends]
      have hlater : AllowsSettled (s.obeyAll requests).resolver groups.flatten := by
        rw [resolver_obeyAll]
        exact fun host hhost => hallowed host (List.mem_append_right _ hhost)
      rw [processes, hrestart]
      simp only [bind, Except.bind, ih hkept hends hlater]
      rw [List.flatten_cons, answers_append, obeyAll, obeyAll, obeyAll, List.foldl_append]
      rfl

/-- A program that began with an empty file can be restarted after any requests.  The restart
changes none of the later answers exactly when all sites have plain ends.  If no other sites are
allowed, a user who gives each process some of the requests gets the answers of a single process. -/
theorem restart_changes_nothing_iff [LawfulTextFile φ] {file : φ} {store : FileStore φ}
    {resolver : Resolver} {requests : List Request} (hopen : FileStore.ofFile? file = .ok store)
    (hempty : store.values = []) (hrun : (load store resolver).obeyAll requests = s) :
    (∃ restarted, s.restart = .ok restarted ∧
      ((∀ later, restarted.answers later = s.answers later) ↔
        ∀ site ∈ s.sites, IsSettled site)) ∧
      ∀ groups : List (List Request), groups.flatten = requests →
        AllowsSettled resolver requests →
          (load store resolver).processes groups =
            .ok ((load store resolver).answers requests, s) := by
  have hkept : (load store resolver).IsKept := isKept_load resolver hopen hempty
  constructor
  · have hkept' : s.IsKept := hrun ▸ hkept.obeyAll requests
    refine ⟨load s.store s.resolver, restart_eq hkept', ?_⟩
    constructor
    · intro hanswers
      have hall := hanswers [.all]
      simp only [answers, answer, List.cons.injEq, Answer.sites.injEq, and_true] at hall
      exact (sites_load_store_eq_iff hkept').mp hall
    · intro hsettled later
      rw [load_eq_self hkept' hsettled]
  · intro groups hgroups hallowed
    have hsettled : ∀ site ∈ (load store resolver).sites, IsSettled site := by
      simp [sites_load resolver (get?_eq_none hempty)]
    have hflat : AllowsSettled (load store resolver).resolver groups.flatten := hgroups ▸ hallowed
    rw [processes_eq hkept hsettled hflat, hgroups, hrun]

/-- A store that begins empty, on a disk that is full at the second text to come. -/
def crowdedStore : FileStore FileStore.CrowdedShelf := ⟨[], ⟨{}, [false, true]⟩⟩

/-- A user allows a site, cannot allow another one, asks for the first and forbids it again. -/
def crowdedRequests : List Request :=
  [.change (.allow "WWW.a.com"), .change (.allow "b.org"), .contains "m.a.com",
    .change (.disallow "a.com"), .all]

/-- A process for each request gives the answers of a single one. -/
theorem restart_changes_nothing_when_crowded :
    FileStore.ofFile? crowdedStore.file = .ok crowdedStore ∧
      ((load crowdedStore .builtIn).processes (crowdedRequests.map ([·]))).map (·.1) =
        .ok [.changed (.ok true), .changed (.error (.io .refused)), .contained true,
          .changed (.ok true), .sites []] := by
  have hopen : FileStore.ofFile? crowdedStore.file = .ok crowdedStore := rfl
  have hallowed : AllowsSettled .builtIn crowdedRequests := by
    intro host hhost
    simp only [crowdedRequests, List.mem_cons, Request.change.injEq, Change.allow.injEq,
      reduceCtorEq, List.not_mem_nil, or_false] at hhost
    rcases hhost with rfl | rfl
    · decide
    · decide
  have hrun : (load crowdedStore .builtIn).obeyAll crowdedRequests =
      (load crowdedStore .builtIn).obeyAll crowdedRequests := rfl
  obtain ⟨-, hprocesses⟩ := restart_changes_nothing_iff hopen rfl hrun
  refine ⟨hopen, ?_⟩
  rw [hprocesses _ rfl hallowed]
  decide +kernel

/-- The safelist of a program without a file that was asked to allow `a..com`. -/
def dottedRun : Safelist (FileStore FileCell) :=
  (load ⟨[], {}⟩ .builtIn).obeyAll [.change (.allow "a..com")]

/-- Of the two full stops of `a..com` one is left in its site until the next restart.  Before it the
site can be forbidden again, after it the site is a different one. -/
theorem restart_changes_dotted_site :
    FileStore.ofFile? ({} : FileCell) = .ok ⟨[], {}⟩ ∧
      dottedRun.answers [.all, .change (.disallow "a..com")] =
        [.sites [".com"], .changed (.ok true)] ∧
      ∃ restarted, dottedRun.restart = .ok restarted ∧
        restarted.answers [.all, .change (.disallow "a..com")] =
          [.sites ["com"], .changed (.ok false)] := by
  have hopen : FileStore.ofFile? ({} : FileCell) = .ok ⟨[], {}⟩ := rfl
  have hkept : dottedRun.IsKept := (isKept_load .builtIn hopen rfl).obeyAll _
  refine ⟨hopen, by decide +kernel, _, restart_eq hkept, ?_⟩
  decide +kernel

end Safelist

end TrackerGuard
