import Mathlib
import TrackerGuard.Proofs.Host.Address
import TrackerGuard.Proofs.Site.Cut

/-!
# Subdomains of a site

By the rule of thumb a suffix is at most two labels long, and two only for the suffixes that are
listed.  A name that has a label more than that is not its own suffix (`IsLong.usualLength_lt`), and
then more labels in front of it change neither its suffix nor its site (`IsLong.registrable_below`).

A label in front can turn a name into a numeric address or an address into a name, and addresses are
sites of their own.  So neither the name nor what lies below it may be one.
-/

namespace TrackerGuard

namespace Host

/-- The host with more labels in front of it. -/
def below (front : List String) (host : String) : String := ofLabels (front ++ labels host)

/-- A name that is no numeric address and has at least two labels, or three if its last two are a
suffix by the rule of thumb. -/
structure IsLong (host : String) : Prop where
  isName : IsName host
  not_isDotted : ¬ isDotted host.toList
  two_le : 2 ≤ (labels host).length
  three_le : ∀ second last, [second, last] <:+ labels (normalize host) →
    (second, last) ∈ Resolver.twoPartSuffixes → 3 ≤ (labels host).length

/-- Labels that can stand in front of a name without making an address of it. -/
structure CanPrecede (front : List String) (host : String) : Prop where
  isLabel : ∀ label ∈ front, IsLabel label.toList
  not_isDotted : ¬ isDotted (below front host).toList

variable {host : String} {front : List String}

lemma IsLabel.dot_notMem {label : List Char} (h : IsLabel label) : '.' ∉ label := by
  intro hdot
  exact absurd (h.2 '.' hdot) (by decide)

lemma labels_below (h : ∀ label ∈ front, IsLabel label.toList) (host : String) :
    labels (below front host) = front ++ labels host := by
  refine labels_ofLabels (by simp [labels_ne_nil]) ?_
  intro label hlabel
  rcases List.mem_append.mp hlabel with hlabel | hlabel
  · exact (h label hlabel).dot_notMem
  · exact dot_notMem_of_mem_labels hlabel

lemma within_below (h : ∀ label ∈ front, IsLabel label.toList) (host : String) :
    Within (below front host) host := by
  rw [within_iff_labels_suffix, labels_below h]
  exact List.suffix_append front (labels host)

lemma IsName.below (hhost : IsName host) (h : ∀ label ∈ front, IsLabel label.toList) :
    IsName (below front host) := by
  rw [isName_iff_labels, labels_below h]
  intro label hlabel
  rcases List.mem_append.mp hlabel with hlabel | hlabel
  · exact h label hlabel
  · exact isName_iff_labels.mp hhost label hlabel

namespace IsLong

open Resolver

/-- The suffix of the name is not all of it. -/
lemma usualLength_lt (h : IsLong host) :
    usualLength (labels (normalize host)).reverse < (labels (normalize host)).length := by
  have htwo := h.two_le
  have hlength : (labels (normalize host)).reverse.length = (labels host).length := by
    rw [List.length_reverse, h.isName.length_labels_normalize]
  rw [h.isName.length_labels_normalize]
  rcases hlabels : (labels (normalize host)).reverse with _ | ⟨last, _ | ⟨second, rest⟩⟩
  · rw [hlabels, List.length_nil] at hlength
    omega
  · rw [hlabels, List.length_singleton] at hlength
    omega
  · rw [usualLength]
    split_ifs with hlisted
    · have hlast : [second, last] <:+ labels (normalize host) := by
        rw [← List.reverse_prefix, hlabels]
        exact List.prefix_append [last, second] rest
      have hthree := h.three_le second last hlast (List.contains_iff_mem.mp hlisted)
      omega
    · omega

/-- A name with more labels in front of it has the same site. -/
lemma registrable_below (h : IsLong host) (hfront : CanPrecede front host) :
    builtIn.registrable (below front host) = builtIn.registrable host := by
  have hname : IsName (below front host) := h.isName.below hfront.isLabel
  have hwithin : Within (normalize (below front host)) (builtIn.site (normalize host)) :=
    ((within_below hfront.isLabel host).normalize hname).trans (builtIn.within_site _)
  refine site_eq_of_within_site ?_ h.usualLength_lt ?_ hwithin
  · rw [h.isName.isAddress_normalize]
    exact h.not_isDotted
  · rw [hname.isAddress_normalize]
    exact hfront.not_isDotted

/-- With a fourth number in front of it, a name of three numbers is an address. -/
example :
    builtIn.registrable "2.3.4" = "3.4" ∧
      builtIn.registrable (below ["1"] "2.3.4") = "1.2.3.4" ∧
      builtIn.registrable (below ["0", "1"] "2.3.4") = "3.4" := by
  decide

/-- The site of the name is not empty. -/
lemma registrable_ne_empty (h : IsLong host) : builtIn.registrable host ≠ "" := by
  have hname : IsName (builtIn.registrable host) :=
    h.isName.isName_normalize.of_within (builtIn.within_site (normalize host))
  exact hname.ne_empty

end IsLong

end Host

end TrackerGuard
