import Mathlib
import TrackerGuard.Page.Entity
import TrackerGuard.Proofs.Host.Address
import TrackerGuard.Proofs.Site.Cut

/-!
# Whom a request is attributed to

A request is attributed by the site of its host.  No two organisations have a domain in common, so
the owner of a site is the organisation that has it among its domains (`ofSite?_eq_some_iff`).

Without a list of suffixes each of these domains is one label longer than its suffix, also where the
suffix has two labels, and so it is the site of all names below it.  It has a letter in it, and
therefore no name below it is a numeric address, whatever stands in front
(`IsCut.registrable_eq`).
-/

namespace TrackerGuard

namespace Resolver

open Host

variable {domain host : String}

/-- A name in lower case that is one label longer than its suffix by the rule of thumb, and that has
a letter in it. -/
structure IsCut (domain : String) : Prop where
  isLowerName : IsLowerName domain
  length_eq : (labels domain).length = usualLength (labels domain).reverse + 1
  hasLetter : domain.toList.any Char.isAlpha

instance (domain : String) : Decidable (IsCut domain) :=
  decidable_of_iff
    (IsLowerName domain ∧ (labels domain).length = usualLength (labels domain).reverse + 1 ∧
      domain.toList.any Char.isAlpha)
    ⟨fun ⟨hname, hlength, hletter⟩ => ⟨hname, hlength, hletter⟩,
      fun h => ⟨h.isLowerName, h.length_eq, h.hasLetter⟩⟩

namespace IsCut

lemma not_isDotted (h : IsCut domain) (hwithin : Within host domain) :
    ¬ isDotted host.toList := by
  intro hdotted
  obtain ⟨c, hc, halpha⟩ := List.any_eq_true.mp h.hasLetter
  rw [(isDecimal_of_isDotted hdotted).isAlpha_eq_false (hwithin.mem_toList hc)] at halpha
  cases halpha

lemma not_isAddress (h : IsCut domain) : ¬ isAddress domain := by
  rw [h.isLowerName.isName.isAddress_eq]
  exact h.not_isDotted (.refl _)

lemma site_eq (h : IsCut domain) : builtIn.site domain = domain := by
  have hlabels := builtIn.labels_site h.not_isAddress
  rw [suffixLength, ← h.length_eq, List.take_of_length_le (by simp),
    List.reverse_reverse] at hlabels
  rw [← ofLabels_labels (builtIn.site domain), hlabels, ofLabels_labels]

/-- The domain is the site of every name below it. -/
theorem registrable_eq (h : IsCut domain) (hhost : IsName host) (hwithin : Within host domain) :
    builtIn.registrable host = domain := by
  have hlong : usualLength (labels domain).reverse < (labels domain).length := by
    rw [h.length_eq]
    exact Nat.lt_succ_self _
  have hhost' : ¬ isAddress (normalize host) := by
    rw [hhost.isAddress_normalize]
    exact h.not_isDotted hwithin
  have hwithin' : Within (normalize host) (builtIn.site domain) := by
    rw [h.site_eq, ← h.isLowerName.normalize_eq_self]
    exact hwithin.normalize hhost
  rw [registrable, site_eq_of_within_site h.not_isAddress hlong hhost' hwithin', h.site_eq]

end IsCut

end Resolver

namespace Entity

open Host Resolver

variable {e : Entity} {domain host site : String}

/-! ## The domains of the organisations -/

lemma isCut_of_mem (h : domain ∈ e.domains) : IsCut domain := by
  have hall : ∀ d ∈ e.domains, IsCut d := by
    cases e <;> decide +kernel
  exact hall domain h

/-- No other organisation has the domain. -/
lemma ofSite?_of_mem (h : domain ∈ e.domains) : ofSite? domain = some e := by
  have hall : ∀ d ∈ e.domains, ofSite? d = some e := by
    cases e <;> decide +kernel
  exact hall domain h

/-- The owner of a site is the organisation that has it among its domains. -/
theorem ofSite?_eq_some_iff : ofSite? site = some e ↔ site ∈ e.domains := by
  constructor
  · intro h
    rw [ofSite?] at h
    have hfound := List.find?_some h
    exact List.contains_iff_mem.mp hfound
  · exact ofSite?_of_mem

/-- Without a list of suffixes, names below a domain of an organisation are attributed to it. -/
theorem ofSite?_registrable (hdomain : domain ∈ e.domains) (hhost : IsName host)
    (hwithin : Within host domain) : ofSite? (builtIn.registrable host) = some e := by
  rw [(isCut_of_mem hdomain).registrable_eq hhost hwithin, ofSite?_of_mem hdomain]

end Entity

end TrackerGuard
