import Mathlib
import TrackerGuard.Proofs.Filter.Port
import TrackerGuard.Proofs.RuleList.Groups
import TrackerGuard.Proofs.Verdict.Reach

/-!
# What the verdict blocks, the rules block, unless there is a port

The verdict looks the host of a request up, whatever port stands behind it; the rules match the
request as it is written.  As long as no group of domains is dropped, every listed domain is in the
filter of some rule that blocks.  So the rules block the requests without a port that the verdict
blocks.  Of those with a port they block only the ones in the rest of which domains happen to be
spelled: `blocks_compile_iff_of_verdict`.
-/

namespace TrackerGuard.RuleList

open Host

variable {σ : Type} {s : Safelist σ} {resolver : Resolver} {domains safelist : List String}
  {features : Features} {scheme host port rest page url : String}

/-- The filter of a rule that blocks matches the URL. -/
def Blocks (rules : List Rule) (url : String) : Prop :=
  ∃ rule ∈ rules, rule.action.isBlocking ∧
    Filter.Matches rule.trigger.urlFilter rule.trigger.caseSensitive url

/-- With no group dropped, some rule blocks what the filter of a group of domains matches. -/
lemma blocks_compile_iff (hfeatures : features.blockRequests)
    (hkept : (compile resolver domains safelist features).tally.truncatedGroups = 0) :
    Blocks (compile resolver domains safelist features).rules url ↔
      ∃ group ∈ domainGroups domains, Filter.Matches (Filter.ofDomains group) false url := by
  have haction : features.blockingAction? = some .block := if_pos hfeatures
  constructor
  · rintro ⟨rule, hrule, hblocking, hmatch⟩
    obtain ⟨group, hgroup, rfl⟩ :=
      (blocking_iff_of_no_truncation haction hkept).mp ⟨hrule, hblocking⟩
    exact ⟨group, hgroup, hmatch⟩
  · rintro ⟨group, hgroup, hmatch⟩
    obtain ⟨hrule, hblocking⟩ :=
      (blocking_iff_of_no_truncation haction hkept).mpr ⟨group, hgroup, rfl⟩
    exact ⟨_, hrule, hblocking, hmatch⟩

/-- With no group dropped, the rules match the host of a URL without a port in some group, or the
rest of the URL. -/
lemma blocks_compile_url_iff (hdomains : ∀ d ∈ domains, IsLowerName d)
    (hfeatures : features.blockRequests)
    (hkept : (compile resolver domains safelist features).tally.truncatedGroups = 0)
    (hscheme : Url.IsWebScheme scheme) (hhost : IsName host) (hport : Url.IsPort port)
    (hrest : '\n' ∉ rest.toList) :
    Blocks (compile resolver domains safelist features).rules
        (scheme ++ "://" ++ host ++ port ++ "/" ++ rest) ↔
      ∃ group ∈ domainGroups domains,
        (port = "" ∧ ∃ front names, Filter.IsFront front ∧ host.toList = front ++ names ∧
          Filter.SpellsDomains false group names) ∨ Filter.RestSpells group rest := by
  rw [blocks_compile_iff hfeatures hkept]
  refine exists_congr fun group => and_congr_right fun hgroup => ?_
  have hnames : ∀ d ∈ group, IsName d := by
    intro d hd
    exact (hdomains d (mem_domainGroups_iff.mp ⟨group, hgroup, hd⟩).1).isName
  exact Filter.matches_url_with_port_iff hnames hscheme hhost hport hrest

/-- **The verdict and the rules.**  A request that the verdict blocks is blocked by the rules
exactly when it has no port, or when domains of one group are spelled in the rest of its URL. -/
theorem blocks_compile_iff_of_verdict (hdomains : ∀ d ∈ domains, IsLowerName d)
    (hfeatures : features.blockRequests)
    (hkept : (compile s.resolver domains s.sites features).tally.truncatedGroups = 0)
    (hscheme : Url.IsWebScheme scheme) (hhost : IsName host) (hport : Url.IsPort port)
    (hrest : '\n' ∉ rest.toList)
    (hblocked : Verdict.blocks (.ofDomains domains) s
      (scheme ++ "://" ++ host ++ port ++ "/" ++ rest) page) :
    Blocks (compile s.resolver domains s.sites features).rules
        (scheme ++ "://" ++ host ++ port ++ "/" ++ rest) ↔
      port = "" ∨ ∃ group ∈ domainGroups domains, Filter.RestSpells group rest := by
  rw [blocks_compile_url_iff hdomains hfeatures hkept hscheme hhost hport hrest]
  constructor
  · rintro ⟨group, hgroup, ⟨hempty, -⟩ | hspelled⟩
    · exact .inl hempty
    · exact .inr ⟨group, hgroup, hspelled⟩
  · rintro (hempty | ⟨group, hgroup, hspelled⟩)
    · obtain ⟨-, d, hd, hwithin, -⟩ :=
        (Verdict.blocks_url_iff hdomains hscheme hhost hport).mp hblocked
      have haccepts : Filter.accepts d := Filter.accepts_of_isName (hdomains d hd).isName
      obtain ⟨group, hgroup, hmem⟩ := mem_domainGroups_iff.mpr ⟨hd, haccepts⟩
      obtain ⟨front, names, hfront, hat, hnames⟩ :=
        Filter.exists_front_of_within_normalize hhost hwithin
      exact ⟨group, hgroup, .inl ⟨hempty, front, names, hfront, hat,
        Filter.spellsDomains_of_mem (hdomains d hd) hmem hnames⟩⟩
    · exact ⟨group, hgroup, .inr hspelled⟩

/-- A safelist without sites, and the built-in resolver. -/
def noSites : Safelist TransientStore := ⟨{}, .builtIn, []⟩

/-- The rules of two domains and no sites. -/
def fewRules : Compilation :=
  compile noSites.resolver ["b.org", "ads.com"] noSites.sites {}

lemma truncatedGroups_fewRules : fewRules.tally.truncatedGroups = 0 := by
  refine truncatedGroups_eq_zero ?_
  rw [show noSites.sites.map noSites.resolver.registrable = [] from rfl, exemptionRules_nil]
  decide

/-- A request with a host in capital letters and without a port. -/
theorem blocks_compile_at_subdomain :
    (∀ d ∈ ["b.org", "ads.com"], IsLowerName d) ∧ fewRules.tally.truncatedGroups = 0 ∧
      Url.IsWebScheme "https" ∧ IsName "X.Ads.com" ∧ Url.IsPort "" ∧ '\n' ∉ "pixel?a=b".toList ∧
      Verdict.blocks (.ofDomains ["b.org", "ads.com"]) noSites
        ("https" ++ "://" ++ "X.Ads.com" ++ "" ++ "/" ++ "pixel?a=b") "https://news.org/" ∧
      Blocks fewRules.rules ("https" ++ "://" ++ "X.Ads.com" ++ "" ++ "/" ++ "pixel?a=b") := by
  have hdomains : ∀ d ∈ ["b.org", "ads.com"], IsLowerName d := by decide
  have hfeatures : ({} : Features).blockRequests := rfl
  have hkept := truncatedGroups_fewRules
  have hscheme : Url.IsWebScheme "https" := by decide
  have hhost : IsName "X.Ads.com" := by decide
  have hport : Url.IsPort "" := .inl rfl
  have hrest : '\n' ∉ "pixel?a=b".toList := by decide
  have hblocked : Verdict.blocks (.ofDomains ["b.org", "ads.com"]) noSites
      ("https" ++ "://" ++ "X.Ads.com" ++ "" ++ "/" ++ "pixel?a=b") "https://news.org/" := by
    rw [Verdict.blocks_url_iff hdomains hscheme hhost hport]
    refine ⟨⟨"news.org", by decide, by decide, by decide⟩, "ads.com", by decide, ?_, ?_⟩
    · exact .inr ⟨"x".toList, by decide⟩
    · exact .inl (by decide)
  have hagree := blocks_compile_iff_of_verdict hdomains hfeatures hkept hscheme hhost hport hrest
    hblocked
  exact ⟨hdomains, hkept, hscheme, hhost, hport, hrest, hblocked, hagree.mpr (.inl rfl)⟩

/-- A request to a listed domain with a port: the verdict blocks it, and the rules do not. -/
theorem not_blocks_compile_with_port :
    (∀ d ∈ ["b.org", "ads.com"], IsLowerName d) ∧ fewRules.tally.truncatedGroups = 0 ∧
      Url.IsWebScheme "https" ∧ IsName "ads.com" ∧ Url.IsPort ":8080" ∧ '\n' ∉ "x".toList ∧
      Verdict.blocks (.ofDomains ["b.org", "ads.com"]) noSites
        ("https" ++ "://" ++ "ads.com" ++ ":8080" ++ "/" ++ "x") "https://news.org/" ∧
      ¬ Blocks fewRules.rules ("https" ++ "://" ++ "ads.com" ++ ":8080" ++ "/" ++ "x") := by
  have hdomains : ∀ d ∈ ["b.org", "ads.com"], IsLowerName d := by decide
  have hkept := truncatedGroups_fewRules
  have hscheme : Url.IsWebScheme "https" := by decide
  have hhost : IsName "ads.com" := by decide
  have hport : Url.IsPort ":8080" := .inr ⟨"8080".toList, by decide, by simp⟩
  have hrest : '\n' ∉ "x".toList := by decide
  refine ⟨hdomains, hkept, hscheme, hhost, hport, hrest, ?_, ?_⟩
  · rw [Verdict.blocks_url_iff hdomains hscheme hhost hport]
    exact ⟨⟨"news.org", by decide, by decide, by decide⟩, "ads.com", by decide,
      .inl (by decide), .inl (by decide)⟩
  · intro hblocks
    obtain ⟨group, -, ⟨hempty, -⟩ | ⟨front, names, back, hspelled, -⟩⟩ :=
      (blocks_compile_url_iff hdomains rfl hkept hscheme hhost hport hrest).mp hblocks
    · exact absurd hempty (by decide)
    · have hdot : '.' ∈ "x".toList := by simp [hspelled]
      exact absurd hdot (by decide)

end TrackerGuard.RuleList
