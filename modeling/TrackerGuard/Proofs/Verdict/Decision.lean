import Mathlib
import TrackerGuard.Proofs.Host.Normal
import TrackerGuard.Proofs.Site.Walk
import TrackerGuard.Proofs.Verdict.Exemption

/-!
# The decision of the matcher

A request is decided by walking up from its host and looking every stop up in the index.  This
module says what is decided without the walk: some domain of the index lies above the host and has
no fewer bytes than the site of the host (`blocks_iff_index_holds_domain`).

Nothing is asked of what the index holds, of the host or of the suffix rules.  The walk leaves out
the empty text and ends at a host that ends with a full stop; neither makes a difference, because it
starts from a normal form, which has no full stop at its ends, and so nothing empty lies above it.
-/

namespace TrackerGuard

open Text

namespace Host

variable {host domain site : String}

/-- The walk from a normal form visits what lies above it and has as many bytes as the site. -/
lemma mem_suffixes_normalize_iff (hne : normalize host ≠ "") :
    domain ∈ suffixes (normalize host) site ↔
      utf8Length site.toList ≤ utf8Length domain.toList ∧ Within (normalize host) domain := by
  rw [mem_suffixes_iff]
  exact and_iff_right_of_imp fun h => ne_empty_of_within_normalize hne h.2

end Host

namespace DomainIndex

variable {index : DomainIndex} {listed : Std.HashSet String} {domain : String}

lemma isReady_iff : index.isReady ↔ ∃ listed, index.domains = some listed :=
  Option.isSome_iff_exists

lemma contains_iff_mem (h : index.domains = some listed) :
    index.contains domain ↔ domain ∈ listed := by
  simp [contains, h]

end DomainIndex

namespace Verdict

variable {σ : Type}

/-- **The decision.**  A request is blocked exactly when the index is loaded, the request is one of
the web, of its host something is left in normal form, the page has a host of another site, which is
not on the safelist, and the index holds a domain that is the host of the request or lies above it
and has no fewer bytes than its site. -/
theorem blocks_iff_index_holds_domain (index : DomainIndex) (s : Safelist σ)
    (request page : String) :
    blocks index s request page ↔
      ∃ listed host pageHost, index.domains = some listed ∧ Url.isWeb request ∧
        Url.host? request = some host ∧ Host.normalize host ≠ "" ∧
        Url.host? page = some pageHost ∧
        s.resolver.registrable (Host.normalize host) ≠
          s.resolver.registrable (Host.normalize pageHost) ∧
        s.resolver.registrable (Host.normalize pageHost) ∉ s.sites ∧
        ∃ domain ∈ listed,
          utf8Length (s.resolver.registrable (Host.normalize host)).toList ≤
            utf8Length domain.toList ∧
          Host.Within (Host.normalize host) domain := by
  rw [blocks_iff]
  constructor
  · rintro ⟨hready, hweb, host, pageHost, hhost, hpage, hne, hother, hexempt, domain, hvisited,
      hholds⟩
    obtain ⟨listed, hlisted⟩ := DomainIndex.isReady_iff.mp hready
    rw [Safelist.exempts_iff] at hexempt
    rw [DomainIndex.contains_iff_mem hlisted] at hholds
    obtain ⟨hlong, hwithin⟩ := (Host.mem_suffixes_normalize_iff hne).mp hvisited
    exact ⟨listed, host, pageHost, hlisted, hweb, hhost, hne, hpage, hother, hexempt, domain,
      hholds, hlong, hwithin⟩
  · rintro ⟨listed, host, pageHost, hlisted, hweb, hhost, hne, hpage, hother, hexempt, domain,
      hholds, hlong, hwithin⟩
    rw [← Safelist.exempts_iff] at hexempt
    rw [← DomainIndex.contains_iff_mem hlisted] at hholds
    have hready : index.isReady := DomainIndex.isReady_iff.mpr ⟨listed, hlisted⟩
    have hvisited := (Host.mem_suffixes_normalize_iff hne).mpr ⟨hlong, hwithin⟩
    exact ⟨hready, hweb, host, pageHost, hhost, hpage, hne, hother, hexempt, domain, hvisited,
      hholds⟩

end Verdict

end TrackerGuard
