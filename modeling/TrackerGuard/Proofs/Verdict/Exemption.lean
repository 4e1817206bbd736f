import Mathlib
import TrackerGuard.Proofs.Settings.LastChange
import TrackerGuard.Proofs.Verdict.Doubt

/-!
# Exemptions in the verdict

The matcher asks the safelist anew for each request, so a change counts from the next request on.
It counts for the pages of its own site only: whether these are exempted is decided by the last
change for one of their hosts that did not fail (`Safelist.IsProper.exempts_run`), and a request of
a page that is not exempted is judged as without a safelist.
-/

namespace TrackerGuard

namespace Verdict

variable {σ : Type} {index : DomainIndex} {s : Safelist σ} {request page pageHost site : String}

/-! ## The verdict -/

/-- The verdict for a page is that without a safelist unless the site of the page is exempted. -/
lemma blocks_eq_of_page (hpage : Url.host? page = some pageHost)
    (hsite : s.resolver.registrable (Host.normalize pageHost) = site) :
    blocks index s request page =
      if s.exempts site then false
      else blocks index (Safelist.load ({} : TransientStore) s.resolver) request page := by
  have hresolver : (Safelist.load ({} : TransientStore) s.resolver).resolver = s.resolver := rfl
  have hnone (site : String) :
      (Safelist.load ({} : TransientStore) s.resolver).exempts site = false := rfl
  rw [Bool.eq_iff_iff, blocks_iff]
  by_cases hexempt : s.exempts site
  · simp [hpage, hsite, hexempt]
  · rw [if_neg hexempt, blocks_iff]
    simp [hpage, hsite, hexempt, hresolver, hnone]

/-- **A change counts at once, and for its site only.**  Whatever was loaded and however changes of
the safelist went since then, a request is judged as without a safelist, unless the site of its page
is exempted.  It is exempted exactly when the last change for a host of this site that did not fail
allowed trackers there, or there was none and the site was loaded. -/
theorem blocks_after_changes [SettingsStore σ] (index : DomainIndex) (store : σ)
    {resolver : Resolver} (changes : List Safelist.Change) (request : String)
    (hpage : Url.host? page = some pageHost)
    (hsite : resolver.registrable (Host.normalize pageHost) = site) (hne : site ≠ "") :
    blocks index ((Safelist.load store resolver).run changes) request page =
        (if ((Safelist.load store resolver).run changes).exempts site then false
          else blocks index (Safelist.load ({} : TransientStore) resolver) request page) ∧
      (((Safelist.load store resolver).run changes).exempts site ↔
        (∃ host, Safelist.lastDone? resolver site
            ((Safelist.load store resolver).outcomes changes) = some (.allow host)) ∨
          Safelist.lastDone? resolver site
            ((Safelist.load store resolver).outcomes changes) = none ∧
            (Safelist.load store resolver).exempts site) := by
  have hloaded : (Safelist.load store resolver).resolver = resolver := rfl
  have hrun : ((Safelist.load store resolver).run changes).resolver = resolver :=
    Safelist.resolver_run _ changes
  constructor
  · rw [blocks_eq_of_page hpage (by rw [hrun, hsite]), hrun]
  · rw [(Safelist.isProper_load store resolver).exempts_run hne, hloaded]
    cases Safelist.lastDone? resolver site ((Safelist.load store resolver).outcomes changes) with
    | none => simp
    | some last => cases last <;> simp [Safelist.Change.isAllow]

open Safelist in
/-- A site that is loaded stays exempted when the store refuses to forbid trackers on it.  Once they
are forbidden on one of its hosts, a request is judged as without a safelist, and so a request to a
listed host is blocked. -/
theorem blocks_after_refused_change :
    Url.host? "http://www.B.org/" = some "www.B.org" ∧
      Resolver.builtIn.registrable (Host.normalize "www.B.org") = "b.org" ∧
      lastDone? .builtIn "b.org"
        ((load crowdedSites .builtIn).outcomes [.allow "M.a.com", .disallow "b.org"]) = none ∧
      (∀ index request, blocks index
        ((load crowdedSites .builtIn).run [.allow "M.a.com", .disallow "b.org"]) request
          "http://www.B.org/" = false) ∧
      (∀ index request, blocks index
        ((load crowdedSites .builtIn).run
          [.allow "M.a.com", .disallow "b.org", .disallow "x.b.org"]) request "http://www.B.org/" =
        blocks index (load ({} : TransientStore) .builtIn) request "http://www.B.org/") ∧
      blocks (.ofDomains ["ads.com"]) (load ({} : TransientStore) .builtIn) "https://ads.com/x"
        "http://www.B.org/" := by
  have hpage : Url.host? "http://www.B.org/" = some "www.B.org" := by decide
  have hsite : Resolver.builtIn.registrable (Host.normalize "www.B.org") = "b.org" := by decide
  have hnone : lastDone? .builtIn "b.org"
      ((load crowdedSites .builtIn).outcomes [.allow "M.a.com", .disallow "b.org"]) = none := by
    decide +kernel
  have hloaded : (load crowdedSites .builtIn).exempts "b.org" := by decide +kernel
  have hlast : lastDone? .builtIn "b.org"
      ((load crowdedSites .builtIn).outcomes
        [.allow "M.a.com", .disallow "b.org", .disallow "x.b.org"]) =
      some (.disallow "x.b.org") := by
    decide +kernel
  refine ⟨hpage, hsite, hnone, fun index request => ?_, fun index request => ?_, ?_⟩
  · obtain ⟨hverdict, hexempts⟩ := blocks_after_changes index crowdedSites
      [.allow "M.a.com", .disallow "b.org"] request hpage hsite (by decide)
    rw [hverdict, if_pos (hexempts.mpr (.inr ⟨hnone, hloaded⟩))]
  · obtain ⟨hverdict, hexempts⟩ := blocks_after_changes index crowdedSites
      [.allow "M.a.com", .disallow "b.org", .disallow "x.b.org"] request hpage hsite (by decide)
    rw [hverdict, if_neg]
    rw [hexempts, hlast]
    simp
  · have hgrounds : Grounds (.ofDomains ["ads.com"]) (load ({} : TransientStore) .builtIn)
        "https://ads.com/x" "http://www.B.org/" "ads.com" "www.B.org" :=
      ⟨rfl, by decide, by decide, hpage, by decide, by decide, by decide⟩
    have hlisted : (DomainIndex.ofDomains ["ads.com"]).contains "ads.com" :=
      (DomainIndex.contains_ofDomains_iff_mem (by decide)).mpr List.mem_cons_self
    rw [blocks, hgrounds.tracker?_eq ⟨"ads.com", Host.mem_suffixes_self _ (by decide), hlisted⟩]
    rfl

end Verdict

end TrackerGuard
