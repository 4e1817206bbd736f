import Mathlib
import TrackerGuard.Proofs.Host.Normal
import TrackerGuard.Proofs.RuleList.Groups
import TrackerGuard.Proofs.Settings.Safelist
import TrackerGuard.Proofs.Site.Cut

/-!
# Exemptions in rules and at run time

A page is exempt at run time when its site is on the safelist.  In a compiled rule list it is exempt
when a rule that ignores the rules before it has an entry for a domain at or above its host.

The rules exempt whatever the safelist exempts.  They exempt more when the entry of a site
overreaches (`Overreach`).  The entry of a site that is a public suffix covers the sites under that
suffix, and so does the entry of a site below which another suffix begins.  The entry of a numeric
address covers names that end in the address.  And an entry is normalized once more when it is
compiled, so a stored site that is not its own normal form turns into another one.

With the rule of thumb, and as long as only names that are longer than their suffix were allowed,
none of this happens, and both sides exempt the same names.
-/

namespace TrackerGuard

namespace RuleList

open Host

variable {resolver : Resolver} {domains safelist : List String} {features : Features}
  {host entry : String}

/-- A rule that ignores the rules before it has an entry for a domain at or above the host. -/
def Overrides (rules : List Rule) (host : String) : Prop :=
  ∃ rule ∈ rules, rule.action = .ignorePreviousRules ∧
    ∃ patterns, rule.trigger.ifDomain = some patterns ∧
      ∃ domain, sitePattern domain ∈ patterns ∧ Within host domain

lemma sitePattern_injective : Function.Injective sitePattern := by
  intro a b h
  simpa [sitePattern] using h

/-- The compiled rules have an entry for the site of every host of the safelist that has one. -/
theorem overrides_compile_iff :
    Overrides (compile resolver domains safelist features).rules host ↔
      ∃ entry ∈ safelist, resolver.registrable entry ≠ "" ∧
        Within host (resolver.registrable entry) := by
  have hsites (domain : String) :
      domain ∈ (sortedDistinct ((safelist.map resolver.registrable).filter (· ≠ ""))).toArray ↔
        ∃ entry ∈ safelist, resolver.registrable entry ≠ "" ∧
          resolver.registrable entry = domain := by
    rw [List.mem_toArray, mem_sortedDistinct, List.mem_filter, List.mem_map]
    constructor
    · rintro ⟨⟨entry, hentry, rfl⟩, hne⟩
      exact ⟨entry, hentry, by simpa using hne, rfl⟩
    · rintro ⟨entry, hentry, hne, rfl⟩
      exact ⟨⟨entry, hentry, rfl⟩, by simpa using hne⟩
  constructor
  · rintro ⟨rule, hrule, haction, patterns, hpatterns, domain, hdomain, hwithin⟩
    obtain ⟨group, hgroup, rfl⟩ := List.mem_map.mp (override_iff.mp ⟨hrule, haction⟩)
    cases hpatterns
    obtain ⟨site, hsite, heq⟩ := List.mem_map.mp hdomain
    rw [sitePattern_injective heq] at hsite
    obtain ⟨entry, hentry, hne, rfl⟩ := (hsites domain).mp (mem_of_mem_groups hgroup hsite)
    exact ⟨entry, hentry, hne, hwithin⟩
  · rintro ⟨entry, hentry, hne, hwithin⟩
    obtain ⟨group, hgroup, hsite⟩ := mem_groups_groupCount_iff.mpr
      ((hsites (resolver.registrable entry)).mpr ⟨entry, hentry, hne, rfl⟩)
    obtain ⟨hrule, haction⟩ := override_iff.mpr (List.mem_map_of_mem hgroup)
    exact ⟨_, hrule, haction, _, rfl, _, List.mem_map_of_mem hsite, hwithin⟩

/-- How the entry of a stored site covers a host that does not belong to the site. -/
inductive Overreach (resolver : Resolver) (entry host : String) : Prop where
  /-- The stored site is not its own normal form, and compiled it is the site of the host. -/
  | respelled : entry ≠ resolver.site host → resolver.registrable entry = resolver.site host →
      Overreach resolver entry host
  /-- The site of the host lies below the entry. -/
  | above : resolver.registrable entry ≠ resolver.site host →
      Within (resolver.site host) (resolver.registrable entry) → Overreach resolver entry host
  /-- The entry is a numeric address, and the host is none but ends in it. -/
  | address : isAddress (resolver.registrable entry) → ¬ isAddress host →
      Within host (resolver.registrable entry) → Overreach resolver entry host

lemma Overreach.within (h : Overreach resolver entry host) :
    Within host (resolver.registrable entry) := by
  cases h with
  | respelled hne heq =>
      rw [heq]
      exact resolver.within_site host
  | above hne habove => exact (resolver.within_site host).trans habove
  | address haddress hhost hwithin => exact hwithin

/-- Names are their own normal forms, and so the site of a name is compiled as it is stored. -/
lemma registrable_site (hhost : IsLowerName host) :
    resolver.registrable (resolver.site host) = resolver.site host := by
  have hsite : IsLowerName (resolver.site host) := hhost.of_within (resolver.within_site host)
  rw [Resolver.registrable, hsite.normalize_eq_self, resolver.site_site]

/-- An entry that covers a host is that of its site, or overreaches. -/
lemma eq_site_or_overreach (hwithin : Within host (resolver.registrable entry)) :
    entry = resolver.site host ∨ Overreach resolver entry host := by
  by_cases hentry : entry = resolver.site host
  · exact .inl hentry
  right
  by_cases heq : resolver.registrable entry = resolver.site host
  · exact .respelled hentry heq
  rcases hwithin.total (resolver.within_site host) with hbelow | habove
  · -- Between a host and its site lies no other site, unless one of the two is an address.
    by_cases haddress : isAddress host
    · rw [resolver.site_of_isAddress haddress] at hbelow heq
      exact absurd (hbelow.antisymm hwithin) heq
    by_cases hnumeric : isAddress (resolver.registrable entry)
    · exact .address hnumeric haddress hwithin
    have hsame := resolver.site_eq_of_between haddress hnumeric hwithin hbelow
    rw [Resolver.registrable, resolver.site_site] at hsame
    exact absurd hsame heq
  · exact .above heq habove

/-- The rules exempt the names whose site is stored, and those that an entry overreaches to. -/
theorem overrides_compile_iff_mem_or_overreach (hhost : IsLowerName host) :
    Overrides (compile resolver domains safelist features).rules host ↔
      resolver.site host ∈ safelist ∨ ∃ entry ∈ safelist, Overreach resolver entry host := by
  have hne (domain : String) (hwithin : Within host domain) : domain ≠ "" :=
    (hhost.isName.of_within hwithin).ne_empty
  rw [overrides_compile_iff]
  constructor
  · rintro ⟨entry, hentry, -, hwithin⟩
    rcases eq_site_or_overreach hwithin with rfl | hover
    · exact .inl hentry
    · exact .inr ⟨entry, hentry, hover⟩
  · rintro (hsite | ⟨entry, hentry, hover⟩)
    · refine ⟨_, hsite, ?_⟩
      rw [registrable_site hhost]
      exact ⟨hne _ (resolver.within_site host), resolver.within_site host⟩
    · exact ⟨entry, hentry, hne _ hover.within, hover.within⟩

/-! ## Safelists that began empty -/

/-- A name that is no numeric address and that is longer than its suffix by the rule of thumb. -/
structure HasUsualSite (host : String) : Prop where
  isName : IsName host
  not_isAddress : ¬ isAddress (normalize host)
  longer : Resolver.usualLength (labels (normalize host)).reverse < (labels (normalize host)).length

instance (host : String) : Decidable (HasUsualSite host) :=
  decidable_of_iff
    (IsName host ∧ ¬ isAddress (normalize host) ∧
      Resolver.usualLength (labels (normalize host)).reverse < (labels (normalize host)).length)
    ⟨fun ⟨hname, haddress, hlong⟩ => ⟨hname, haddress, hlong⟩,
      fun h => ⟨h.isName, h.not_isAddress, h.longer⟩⟩

/-- The entry of the usual site of a host covers the hosts of that site only. -/
lemma eq_site_of_within {allowed : String} (hallowed : HasUsualSite allowed)
    (haddress : ¬ isAddress host)
    (hwithin : Within host (Resolver.builtIn.registrable (Resolver.builtIn.registrable allowed))) :
    Resolver.builtIn.registrable allowed = Resolver.builtIn.site host := by
  have hname : IsLowerName (normalize allowed) := hallowed.isName.isLowerName_normalize
  have hsite : Resolver.builtIn.registrable (Resolver.builtIn.registrable allowed) =
      Resolver.builtIn.site (normalize allowed) := registrable_site hname
  rw [hsite] at hwithin
  exact (Resolver.site_eq_of_within_site hallowed.not_isAddress hallowed.longer haddress
    hwithin).symm

variable {σ : Type} [SettingsStore σ] {store : σ} {s : Safelist σ} {changes : List Safelist.Change}

/-- **Exemptions in rules and at run time.**  After any run of changes from an empty safelist, the
rules exempt the names that the safelist exempts and those that an entry overreaches to; and they
exempt no others than the safelist when, with the rule of thumb, only names longer than their suffix
were allowed and the host is no numeric address. -/
theorem overrides_run_iff (hempty : SettingsStore.get? store Safelist.key = none)
    (hrun : (Safelist.load store resolver).run changes = s) (hhost : IsLowerName host) :
    (Overrides (compile resolver domains s.sites features).rules host ↔
      s.exempts (resolver.registrable host) ∨
        ∃ entry ∈ s.sites, Overreach resolver entry host) ∧
    (resolver = .builtIn → ¬ isAddress host →
      (∀ allowed, .allow allowed ∈ changes → HasUsualSite allowed) →
        (Overrides (compile resolver domains s.sites features).rules host ↔
          s.exempts (resolver.registrable host))) := by
  have hexempts : s.exempts (resolver.registrable host) ↔ resolver.site host ∈ s.sites := by
    rw [Resolver.registrable, hhost.normalize_eq_self, Safelist.exempts, List.contains_iff_mem]
  rw [hexempts]
  refine ⟨overrides_compile_iff_mem_or_overreach hhost, ?_⟩
  rintro rfl haddress husual
  constructor
  · intro hover
    obtain ⟨entry, hentry, -, hwithin⟩ := overrides_compile_iff.mp hover
    subst hrun
    obtain ⟨allowed, hallowed, rfl⟩ := Safelist.mem_sites_run_load hempty hentry
    rwa [← eq_site_of_within (husual allowed hallowed) haddress hwithin]
  · intro hsite
    exact (overrides_compile_iff_mem_or_overreach hhost).mpr (.inl hsite)

/-- The changes of a user who allows a site in capital letters and by a subdomain, allows a second
site and forbids it again. -/
def newsChanges : List Safelist.Change :=
  [.allow "WWW.News.org", .allow "a.co.uk", .disallow "b.a.co.uk"]

/-- The safelist after these changes. -/
def newsAllowed : Safelist TransientStore := (Safelist.load {} .builtIn).run newsChanges

/-- A subdomain of the site that is left is exempt in the rules, as it is at run time. -/
theorem overrides_run_at_subdomain :
    SettingsStore.get? ({} : TransientStore) Safelist.key = none ∧
      (Safelist.load ({} : TransientStore) .builtIn).run newsChanges = newsAllowed ∧
      IsLowerName "m.news.org" ∧
      Overrides (compile .builtIn ["ads.com"] newsAllowed.sites {}).rules "m.news.org" := by
  have hempty : SettingsStore.get? ({} : TransientStore) Safelist.key = none := rfl
  have hrun : (Safelist.load {} .builtIn).run newsChanges = newsAllowed := rfl
  have hhost : IsLowerName "m.news.org" := by decide
  have husual : ∀ allowed, .allow allowed ∈ newsChanges → HasUsualSite allowed := by
    intro allowed hallowed
    simp only [newsChanges, List.mem_cons, Safelist.Change.allow.injEq, reduceCtorEq,
      List.not_mem_nil, or_false] at hallowed
    rcases hallowed with rfl | rfl
    · decide
    · decide
  have hagree : Overrides (compile .builtIn ["ads.com"] newsAllowed.sites {}).rules "m.news.org" ↔
      newsAllowed.exempts (Resolver.builtIn.registrable "m.news.org") :=
    (overrides_run_iff hempty hrun hhost).2 rfl (by decide) husual
  exact ⟨hempty, hrun, hhost, hagree.mpr (by decide +kernel)⟩

/-- The safelist after `com` was allowed. -/
def suffixAllowed : Safelist TransientStore := (Safelist.load {} .builtIn).run [.allow "com"]

/-- Once `com` is allowed, the rules exempt `a.com`, and the safelist does not. -/
theorem overrides_below_allowed_suffix :
    IsLowerName "a.com" ∧ Overrides (compile .builtIn [] suffixAllowed.sites {}).rules "a.com" ∧
      ¬ suffixAllowed.exempts (Resolver.builtIn.registrable "a.com") := by
  have hwithin : Within "a.com" "com" := .inr ⟨"a".toList, by decide⟩
  have hover : Overreach .builtIn "com" "a.com" := .above (by decide) hwithin
  refine ⟨by decide, ?_, by decide⟩
  exact (overrides_compile_iff_mem_or_overreach (by decide)).mpr (.inr ⟨"com", by decide, hover⟩)

end RuleList

end TrackerGuard
