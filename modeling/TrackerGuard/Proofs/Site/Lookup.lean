import Mathlib
import TrackerGuard.Proofs.Site.Cache
import TrackerGuard.Site.Lookup

/-!
# The cache cannot be noticed

A look-up gives the site of its host, whether the site comes from the cache or not, and whatever the
cache was used for before.  This holds as well when look-ups overlap, so that several of them miss
the same host and each stores its site: what they store is the same.

`IsSound` is what the two steps of a look-up keep of a finder, and `IsTransparent` what a step of
any look-up keeps of all that are under way.  `run_is_transparent` puts together what follows for
every history.
-/

namespace TrackerGuard.SiteFinder

variable {r : Resolver} {capacity : Nat} {f f' : SiteFinder} {t : Traffic} {host site : String}

/-! ## One look-up -/

/-- A finder that has the sites of a resolver, and a cache of these sites. -/
structure IsSound (r : Resolver) (capacity : Nat) (f : SiteFinder) : Prop where
  resolver_eq : f.resolver = r
  capacity_eq : f.cache.capacity = capacity
  cache : f.cache.IsSound r.site

lemma isSound_empty (r : Resolver) (capacity : Nat) :
    IsSound r capacity ⟨r, .empty capacity⟩ where
  resolver_eq := rfl
  capacity_eq := rfl
  cache := Cache.isSound_empty capacity

/-- The first step gives nothing else than the site. -/
lemma IsSound.consult {found : Option String} (h : f.IsSound r capacity)
    (hconsult : f.consult host = (found, f')) :
    (∀ site ∈ found, site = r.registrable host) ∧ f'.IsSound r capacity := by
  cases hconsult
  refine ⟨fun site hsite => h.cache.read_eq hsite, h.resolver_eq, ?_, h.cache.read _⟩
  exact (Cache.capacity_read _ _).trans h.capacity_eq

/-- The second step gives the site and stores it. -/
lemma IsSound.resolve (h : f.IsSound r capacity) (hcapacity : 0 < capacity)
    (hresolve : f.resolve host = (site, f')) :
    site = r.registrable host ∧ f'.IsSound r capacity := by
  have hpos : 0 < f.cache.capacity := h.capacity_eq ▸ hcapacity
  have hstore := h.cache.store hpos (Host.normalize host)
  have hkept := f.cache.capacity_store (Host.normalize host) (r.registrable host)
  rw [SiteFinder.resolve, h.resolver_eq] at hresolve
  obtain ⟨rfl, rfl⟩ := Prod.mk.inj hresolve
  exact ⟨rfl, rfl, hkept.trans h.capacity_eq, hstore⟩

lemma IsSound.lookUp (h : f.IsSound r capacity) (hcapacity : 0 < capacity)
    (hlookUp : f.lookUp host = (site, f')) :
    site = r.registrable host ∧ f'.IsSound r capacity := by
  rcases hconsult : f.consult host with ⟨_ | found, f₁⟩
  · simp only [SiteFinder.lookUp, hconsult] at hlookUp
    exact (h.consult hconsult).2.resolve hcapacity hlookUp
  · simp only [SiteFinder.lookUp, hconsult] at hlookUp
    cases hlookUp
    obtain ⟨hfound, hsound⟩ := h.consult hconsult
    exact ⟨hfound site rfl, hsound⟩

/-- Looking hosts up one after another gives their sites. -/
theorem IsSound.lookUpAll (h : f.IsSound r capacity) (hcapacity : 0 < capacity)
    (hosts : List String) : (f.lookUpAll hosts).1 = hosts.map r.registrable := by
  have hfrom (out : List String) :
      (lookUpAllFrom out f hosts).1 = out.reverse ++ hosts.map r.registrable := by
    induction hosts generalizing out f with
    | nil => simp [lookUpAllFrom]
    | cons host hosts ih =>
        rcases hlookUp : f.lookUp host with ⟨site, f'⟩
        obtain ⟨hsite, hsound⟩ := h.lookUp hcapacity hlookUp
        simp only [lookUpAllFrom, hlookUp, ih hsound, hsite]
        simp
  exact hfrom []

/-! ## Look-ups at the same time -/

lemma step_begins_of_none (h : t.finder.consult host = (none, f)) :
    step t (.begins host) = { t with finder := f, waiting := host :: t.waiting } := by
  simp only [step, h]

lemma step_begins_of_some (h : t.finder.consult host = (some site, f)) :
    step t (.begins host) = { t with finder := f, answers := (host, site) :: t.answers } := by
  simp only [step, h]

lemma step_finishes_of_mem (hhost : host ∈ t.waiting)
    (h : t.finder.resolve host = (site, f)) :
    step t (.finishes host) = ⟨f, t.waiting.erase host, (host, site) :: t.answers⟩ := by
  simp only [step, if_pos hhost, h]

lemma step_finishes_of_notMem (h : host ∉ t.waiting) : step t (.finishes host) = t := by
  simp only [step, if_neg h]

/-- Look-ups with a sound finder that have given no other answers than sites. -/
structure IsTransparent (r : Resolver) (capacity : Nat) (t : Traffic) : Prop where
  finder : t.finder.IsSound r capacity
  answers_eq : ∀ answer ∈ t.answers, answer.2 = r.registrable answer.1

lemma IsTransparent.step (h : IsTransparent r capacity t) (hcapacity : 0 < capacity) (e : Event) :
    IsTransparent r capacity (step t e) := by
  cases e with
  | begins host =>
      rcases hconsult : t.finder.consult host with ⟨_ | site, f⟩
      · rw [step_begins_of_none hconsult]
        exact ⟨(h.finder.consult hconsult).2, h.answers_eq⟩
      · obtain ⟨hsite, hsound⟩ := h.finder.consult hconsult
        rw [step_begins_of_some hconsult]
        exact ⟨hsound, List.forall_mem_cons.mpr ⟨hsite site rfl, h.answers_eq⟩⟩
  | finishes host =>
      by_cases hhost : host ∈ t.waiting
      · rcases hresolve : t.finder.resolve host with ⟨site, f⟩
        obtain ⟨hsite, hsound⟩ := h.finder.resolve hcapacity hresolve
        rw [step_finishes_of_mem hhost hresolve]
        exact ⟨hsound, List.forall_mem_cons.mpr ⟨hsite, h.answers_eq⟩⟩
      · rwa [step_finishes_of_notMem hhost]

lemma run_concat (f : SiteFinder) (history : List Event) (e : Event) :
    run f (history ++ [e]) = step (run f history) e := by
  rw [run, List.foldl_concat, ← run]

lemma isTransparent_run (r : Resolver) (hcapacity : 0 < capacity) (history : List Event) :
    IsTransparent r capacity (run ⟨r, .empty capacity⟩ history) := by
  induction history using List.reverseRecOn with
  | nil => exact ⟨isSound_empty r capacity, List.forall_mem_nil _⟩
  | append_singleton history e ih =>
      rw [run_concat]
      exact ih.step hcapacity e

/-- The host of a look-up that begins. -/
def Event.begun? : Event → Option String
  | .begins host => some host
  | .finishes _ => none

/-- The hosts of the look-ups under way and of those that have their answer. -/
def Traffic.hosts (t : Traffic) : List String := t.waiting ++ t.answers.map Prod.fst

/-- A step adds the look-up that begins in it, and loses none. -/
lemma perm_hosts_step (t : Traffic) (e : Event) :
    (step t e).hosts.Perm (t.hosts ++ e.begun?.toList) := by
  cases e with
  | begins host =>
      refine .trans ?_ (List.perm_append_singleton host t.hosts).symm
      rcases hfound : t.finder.consult host with ⟨_ | site, f⟩
      · rw [step_begins_of_none hfound]
        exact .refl _
      · rw [step_begins_of_some hfound]
        exact List.perm_middle
  | finishes host =>
      rw [Event.begun?, Option.toList_none, List.append_nil]
      by_cases hhost : host ∈ t.waiting
      · rcases hresolve : t.finder.resolve host with ⟨site, f⟩
        rw [step_finishes_of_mem hhost hresolve]
        refine List.perm_middle.trans ?_
        exact (List.perm_cons_erase hhost).symm.append_right _
      · rw [step_finishes_of_notMem hhost]

/-- Each look-up that has begun waits or has its answer. -/
lemma perm_hosts_run (f : SiteFinder) (history : List Event) :
    (run f history).hosts.Perm (history.filterMap Event.begun?) := by
  induction history using List.reverseRecOn with
  | nil => exact .nil
  | append_singleton history e ih =>
      have hlast : [e].filterMap Event.begun? = e.begun?.toList := by
        cases h : e.begun? <;> simp [h]
      rw [run_concat, List.filterMap_append, hlast]
      exact (perm_hosts_step _ e).trans (ih.append_right _)

/-- **The cache cannot be noticed.**  Whatever look-ups there were and however their steps were
interleaved, each of them has the site of its host as its answer or waits to get it in its next
step, and any look-ups that follow get the sites of their hosts.  The cache keeps to its capacity;
its order holds the keys of its entries, each once; and these are sites of their keys. -/
theorem run_is_transparent (r : Resolver) (hcapacity : 0 < capacity) (history : List Event) :
    let t := run ⟨r, .empty capacity⟩ history
    (t.waiting ++ t.answers.map Prod.fst).Perm (history.filterMap Event.begun?) ∧
      (∀ answer ∈ t.answers, answer.2 = r.registrable answer.1) ∧
      (∀ host ∈ t.waiting,
        (step t (.finishes host)).answers = (host, r.registrable host) :: t.answers) ∧
      (∀ hosts, (t.finder.lookUpAll hosts).1 = hosts.map r.registrable) ∧
      t.finder.cache.entries.size ≤ capacity ∧
      (∀ key, key ∈ t.finder.cache.entries ↔ key ∈ t.finder.cache.order.toList) ∧
      t.finder.cache.order.toList.Nodup ∧
      ∀ key site mark, t.finder.cache.entries[key]? = some (site, mark) → site = r.site key := by
  intro t
  have htransparent : IsTransparent r capacity t := isTransparent_run r hcapacity history
  have hfinder := htransparent.finder
  have hcache := hfinder.cache
  refine ⟨perm_hosts_run _ history, htransparent.answers_eq, fun host hhost => ?_,
    hfinder.lookUpAll hcapacity, ?_, fun key => (hcache.mem_order_iff key).symm, hcache.nodup,
    hcache.value_eq⟩
  · rcases hresolve : t.finder.resolve host with ⟨site, f⟩
    rw [step_finishes_of_mem hhost hresolve, (hfinder.resolve hcapacity hresolve).1]
  · rw [← hfinder.capacity_eq]
    exact hcache.size_le

/-- Two look-ups of one host that miss it both, and then more hosts than there is room for. -/
def crowdedLookups : List Event :=
  [.begins "M.a.com", .begins "m.a.com.", .finishes "m.a.com.", .finishes "M.a.com",
    .begins "b.org", .finishes "b.org", .begins "m.a.com", .begins "x.c.net", .finishes "x.c.net",
    .begins "d.co.uk"]

/-- A cache of two sites under these look-ups. -/
theorem run_is_transparent_when_crowded :
    let t := run ⟨.builtIn, .empty 2⟩ crowdedLookups
    0 < 2 ∧
      (t.waiting ++ t.answers.map Prod.fst).Perm
        ["M.a.com", "m.a.com.", "b.org", "m.a.com", "x.c.net", "d.co.uk"] ∧
      (∀ answer ∈ t.answers, answer.1 = "m.a.com" → answer.2 = "a.com") ∧
      (t.finder.lookUpAll ["b.org", "www.b.org", "x.c.net"]).1 = ["b.org", "b.org", "c.net"] ∧
      t.finder.cache.entries.size ≤ 2 := by
  obtain ⟨hhosts, hanswers, -, hlater, hsize, -⟩ :=
    run_is_transparent .builtIn (show 0 < 2 by decide) crowdedLookups
  refine ⟨by decide, hhosts, fun answer hanswer hhost => ?_, ?_, hsize⟩
  · rw [hanswers answer hanswer, hhost]
    decide
  · rw [hlater]
    decide

end TrackerGuard.SiteFinder
