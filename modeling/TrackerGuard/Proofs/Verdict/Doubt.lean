import Mathlib
import TrackerGuard.Proofs.Settings.WriteThrough
import TrackerGuard.Proofs.Verdict.Reach

/-!
# What is certain of a recorded request

A request that is recorded has been looked at from all sides: the index is loaded, the request is
one of the web and has a host of which something is left in normal form, and its page is of another
site, on which trackers are not allowed (`Grounds`).  What is recorded is the normal form of the
host, and nothing is recorded otherwise.

The page is looked at less closely than the request.  It must have a host, but nothing need be left
of it in normal form: `Url.host?` turns down a host that is empty or a single full stop, and not one
of several full stops, or of blanks.  Such a page counts as one of the site without a name, on which
trackers cannot be allowed (`blocks_on_nameless_page`).  So a request may be recorded although it is
in doubt which page it is from, and this is the only doubt that remains
(`record_only_on_grounds`).
-/

namespace TrackerGuard

namespace Resolver

/-- A host of which nothing is left belongs to the site without a name. -/
lemma registrable_of_normalize_eq_empty (r : Resolver) {host : String}
    (h : Host.normalize host = "") : r.registrable host = "" := by
  have hsite : Host.Within "" (r.site "") := r.within_site ""
  rw [registrable, h]
  rcases hsite with heq | ⟨front, hfront⟩
  · exact heq.symm
  · simp at hfront

end Resolver

namespace Host

/-- The walk from a name visits the name itself. -/
lemma mem_suffixes_self {host : String} (r : Resolver) (h : IsLowerName host) :
    host ∈ suffixes (normalize host) (r.registrable (normalize host)) := by
  have hsite : Within host (r.site host) := r.within_site host
  rw [Resolver.registrable, h.normalize_eq_self, h.normalize_eq_self,
    mem_suffixes_iff_between hsite]
  exact ⟨h.isName.ne_empty, .refl host, hsite⟩

end Host

namespace Verdict

variable {σ : Type} {index : DomainIndex} {s : Safelist σ} {request page host pageHost : String}

/-- What is certain of a request that is blocked. -/
structure Grounds (index : DomainIndex) (s : Safelist σ) (request page host pageHost : String) :
    Prop where
  isReady : index.isReady
  isWeb : Url.isWeb request
  hasHost : Url.host? request = some host
  pageHasHost : Url.host? page = some pageHost
  named : Host.normalize host ≠ ""
  foreign : s.resolver.registrable (Host.normalize host) ≠
    s.resolver.registrable (Host.normalize pageHost)
  notAllowed : ¬ s.exempts (s.resolver.registrable (Host.normalize pageHost))

lemma grounds_of_tracker? {blocked : String} (h : tracker? index s request page = some blocked) :
    ∃ host pageHost,
      Grounds index s request page host pageHost ∧ Host.normalize host = blocked := by
  obtain ⟨hready, hweb, host, pageHost, hhost, hpage, hne, hsite, hexempt, -, rfl⟩ :=
    tracker?_eq_some_iff.mp h
  exact ⟨host, pageHost, ⟨hready, hweb, hhost, hpage, hne, hsite, hexempt⟩, rfl⟩

/-- With these grounds a request is blocked if a domain that the walk from its host visits is
listed. -/
lemma Grounds.tracker?_eq (h : Grounds index s request page host pageHost)
    (hlisted : ∃ domain ∈ Host.suffixes (Host.normalize host)
      (s.resolver.registrable (Host.normalize host)), index.contains domain) :
    tracker? index s request page = some (Host.normalize host) :=
  tracker?_eq_some_iff.mpr ⟨h.isReady, h.isWeb, host, pageHost, h.hasHost, h.pageHasHost, h.named,
    h.foreign, h.notAllowed, hlisted, rfl⟩

/-! ## Records -/

lemma record_eq (index : DomainIndex) (s : Safelist σ) (request page : String) (log : PageRecord) :
    record index s request page log =
      (blocks index s request page, ⟨log.hosts ++ (tracker? index s request page).toList⟩) := by
  rw [record, blocks]
  cases tracker? index s request page with
  | none => simp
  | some host => rfl

/-- The records of a page after requests, one after another. -/
def recordAll (index : DomainIndex) (s : Safelist σ) (page : String) (log : PageRecord)
    (requests : List String) : PageRecord :=
  requests.foldl (fun log request => (record index s request page log).2) log

/-- The records of a page are the hosts of its blocked requests, in the order of the requests. -/
theorem hosts_recordAll (index : DomainIndex) (s : Safelist σ) (page : String) (log : PageRecord)
    (requests : List String) :
    (recordAll index s page log requests).hosts =
      log.hosts ++ requests.filterMap (tracker? index s · page) := by
  induction requests generalizing log with
  | nil => simp [recordAll]
  | cons request requests ih =>
      rw [recordAll, List.foldl_cons, ← recordAll, ih, record_eq, List.append_assoc]
      cases htracker : tracker? index s request page with
      | none => simp [htracker]
      | some host => simp [htracker]

/-- **What is recorded is blocked on grounds.**  A request for which a host is recorded meets all
that is asked of the request, of its page and of the index, and it is the normal form of its host
that is recorded; for other requests nothing is.  Nothing more is asked of a request than that a
domain is listed.  Of the host of the page something is left in normal form exactly when there is
more between the blanks at its ends than full stops. -/
theorem record_only_on_grounds (index : DomainIndex) (s : Safelist σ) (request page : String)
    (log : PageRecord) :
    ((record index s request page log).1 = true →
      ∃ host pageHost, Grounds index s request page host pageHost ∧
        (record index s request page log).2.hosts = log.hosts ++ [Host.normalize host] ∧
        (Host.normalize pageHost ≠ "" ↔ ∃ c ∈ Text.trim pageHost.toList, c ≠ '.')) ∧
      (∀ host pageHost, Grounds index s request page host pageHost →
        (∃ domain ∈ Host.suffixes (Host.normalize host)
          (s.resolver.registrable (Host.normalize host)), index.contains domain) →
        (record index s request page log).1 = true) ∧
      ((record index s request page log).1 = false →
        (record index s request page log).2 = log) := by
  rw [record_eq, blocks]
  refine ⟨fun hblocked => ?_, fun host pageHost hgrounds hlisted => ?_, fun hfree => ?_⟩
  · obtain ⟨blocked, htracker⟩ := Option.isSome_iff_exists.mp hblocked
    obtain ⟨host, pageHost, hgrounds, rfl⟩ := grounds_of_tracker? htracker
    refine ⟨host, pageHost, hgrounds, by rw [htracker]; rfl, ?_⟩
    rw [Ne, Host.normalize_eq_empty_iff]
    simp
  · rw [hgrounds.tracker?_eq hlisted]
    rfl
  · rw [Option.isSome_eq_false_iff, Option.isNone_iff_eq_none] at hfree
    simp [hfree]

/-! ## Pages without a name -/

/-- From a page of whose host nothing is left, a request is blocked as from any page of another
site, provided that it has a site with a name itself. -/
theorem blocks_on_nameless_page [SettingsStore σ] (hs : s.IsProper)
    (hpage : Url.host? page = some pageHost) (hempty : Host.normalize pageHost = "") :
    blocks index s request page ↔
      index.isReady ∧ Url.isWeb request ∧
        ∃ host, Url.host? request = some host ∧ Host.normalize host ≠ "" ∧
          s.resolver.registrable (Host.normalize host) ≠ "" ∧
          ∃ domain ∈ Host.suffixes (Host.normalize host)
              (s.resolver.registrable (Host.normalize host)), index.contains domain := by
  have hsite : s.resolver.registrable (Host.normalize pageHost) = "" := by
    rw [hempty]
    exact s.resolver.registrable_of_normalize_eq_empty (by decide)
  have hexempt : s.exempts "" = false := by
    simpa [Safelist.exempts] using hs.not_mem_empty
  rw [blocks_iff]
  simp [hpage, hsite, hexempt]

/-- A page whose host is two full stops has none that is left in normal form, and a request from it
is recorded. -/
theorem records_on_page_of_full_stops :
    record (.ofDomains ["ads.com"]) (Safelist.load ({} : TransientStore) .builtIn)
        "https://ads.com/x" "https://../" {} = (true, ⟨["ads.com"]⟩) ∧
      Url.host? "https://../" = some ".." ∧ Host.normalize ".." = "" := by
  have hlisted : (DomainIndex.ofDomains ["ads.com"]).contains "ads.com" :=
    (DomainIndex.contains_ofDomains_iff_mem (by decide)).mpr List.mem_cons_self
  have hgrounds : Grounds (.ofDomains ["ads.com"]) (Safelist.load ({} : TransientStore) .builtIn)
      "https://ads.com/x" "https://../" "ads.com" ".." :=
    ⟨rfl, by decide, by decide, by decide, by decide, by decide, by decide⟩
  have htracker := hgrounds.tracker?_eq ⟨"ads.com", Host.mem_suffixes_self _ (by decide), hlisted⟩
  refine ⟨?_, by decide, by decide⟩
  rw [record_eq, blocks, htracker]
  decide

end Verdict

end TrackerGuard
