import Mathlib
import TrackerGuard.Proofs.Host.Normal
import TrackerGuard.Proofs.Site.Cut

/-!
# Sites of sites

The site of a host is its normal form or stands behind one of its full stops.  To take the site once
more changes nothing when the site is its own normal form, since a site is the site of itself
whatever the resolver (`site_site`).

That it is its own normal form is a matter of its ends (`IsSettled`): blanks are taken off a host
before full stops are, once each, and then its labels are cut, so a site may begin with a blank or
with a full stop, and then its own site is shorter (`length_registrable_lt`).  When no label of the
host is empty or has a blank at its ends, neither has the site, which is made of some of the same
labels (`registrable_projects`).
-/

namespace TrackerGuard

open Text

/-- A site that neither begins nor ends with a blank or with a full stop. -/
def IsSettled (site : String) : Prop :=
  HasPlainEnds isBlank site.toList ∧ HasPlainEnds (· == '.') site.toList

instance (site : String) : Decidable (IsSettled site) :=
  inferInstanceAs (Decidable (_ ∧ _))

namespace Resolver

variable {r : Resolver} {host site : String}

lemma isLower_registrable (h : r.registrable host = site) : IsLower site.toList := by
  intro c hc
  have hwithin := r.within_site (Host.normalize host)
  rw [← registrable, h] at hwithin
  exact Host.isLower_normalize host c (hwithin.mem_toList hc)

lemma normalize_eq_self_iff (h : r.registrable host = site) :
    Host.normalize site = site ↔ IsSettled site := by
  rw [Host.normalize_eq_self_iff, IsSettled]
  simp [isLower_registrable h]

/-- A site with plain ends is its own site. -/
lemma registrable_eq_self (h : r.registrable host = site) (hsettled : IsSettled site) :
    r.registrable site = site := by
  rw [registrable, (normalize_eq_self_iff h).mpr hsettled, ← h, registrable, r.site_site]

/-- Any other site is longer than its own site. -/
lemma length_registrable_lt (h : r.registrable host = site) (hsettled : ¬ IsSettled site) :
    (r.registrable site).toList.length < site.toList.length := by
  have hne : Host.normalize site ≠ site := fun heq => hsettled ((normalize_eq_self_iff h).mp heq)
  have hshorter := Host.length_normalize_lt (isLower_registrable h) hne
  have hsite := (r.within_site (Host.normalize site)).length_le
  rw [← registrable] at hsite
  omega

/-! ## Labels of sites -/

/-- Labels that are not empty and have no blanks at their ends make up a site with plain ends. -/
lemma isSettled_of_labels
    (h : ∀ label ∈ Host.labels site, label ≠ "" ∧ HasPlainEnds isBlank label.toList) :
    IsSettled site := by
  have hjoined : ['.'].intercalate (site.toList.splitOn '.') = site.toList :=
    List.intercalate_splitOn '.'
  have hlabels {label : List Char} (hlabel : label ∈ site.toList.splitOn '.') :
      label ≠ [] ∧ HasPlainEnds isBlank label := by
    have hplain := h (String.ofList label) (List.mem_map_of_mem hlabel)
    simpa using hplain
  rw [IsSettled, ← hjoined]
  constructor
  · exact hasPlainEnds_intercalate fun label hlabel => hlabels hlabel
  · refine hasPlainEnds_intercalate fun label hlabel => ⟨(hlabels hlabel).1, ?_⟩
    have hdot : '.' ∉ label := Host.dot_notMem_of_mem_splitOn hlabel
    have hplain : ∀ c ∈ label, (c == '.') = false := by
      intro c hc
      rw [beq_eq_false_iff_ne]
      rintro rfl
      exact hdot hc
    exact ⟨fun c hc => hplain c (List.mem_of_mem_head? hc),
      fun c hc => hplain c (List.mem_of_mem_getLast? hc)⟩

/-- **Taking the site of a host is a projection onto one of its suffixes.**  The site is the normal
form of the host or stands behind one of its full stops, and when no label of the normal form is
empty or has a blank at its ends, the site of the site is itself. -/
theorem registrable_projects (r : Resolver) (host : String) :
    Host.Within (Host.normalize host) (r.registrable host) ∧
      ((∀ label ∈ Host.labels (Host.normalize host),
          label ≠ "" ∧ HasPlainEnds isBlank label.toList) →
        r.registrable (r.registrable host) = r.registrable host) := by
  have hwithin : Host.Within (Host.normalize host) (r.registrable host) :=
    r.within_site (Host.normalize host)
  refine ⟨hwithin, fun hlabels => registrable_eq_self rfl (isSettled_of_labels ?_)⟩
  intro label hlabel
  exact hlabels label ((Host.within_iff_labels_suffix.mp hwithin).subset hlabel)

/-- Rules with a wildcard and an exception to it. -/
def kawasakiRules : SuffixTree :=
  (((SuffixTree.empty.insert .suffix ["jp"]).insert .suffix ["jp", "kawasaki", "*"]).insert
    .exception ["jp", "kawasaki", "city"])

/-- A name that is excepted from a wildcard is a site of its own, however a host below it is written,
and the site of that site is itself. -/
theorem registrable_projects_at_exception :
    (∀ label ∈ Host.labels (Host.normalize " www.X y.City.Kawasaki.JP. "),
        label ≠ "" ∧ HasPlainEnds isBlank label.toList) ∧
      (rules kawasakiRules).registrable " www.X y.City.Kawasaki.JP. " = "city.kawasaki.jp" ∧
      (rules kawasakiRules).registrable "city.kawasaki.jp" = "city.kawasaki.jp" := by
  have hlabels : ∀ label ∈ Host.labels (Host.normalize " www.X y.City.Kawasaki.JP. "),
      label ≠ "" ∧ HasPlainEnds isBlank label.toList := by
    decide +kernel
  have hsite : (rules kawasakiRules).registrable " www.X y.City.Kawasaki.JP. " =
      "city.kawasaki.jp" := by
    decide +kernel
  obtain ⟨-, hprojects⟩ := registrable_projects (rules kawasakiRules) " www.X y.City.Kawasaki.JP. "
  rw [hsite] at hprojects
  exact ⟨hlabels, hsite, hprojects hlabels⟩

end Resolver

end TrackerGuard
