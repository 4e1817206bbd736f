import Mathlib
import TrackerGuard.Proofs.Filter.Reach
import TrackerGuard.Proofs.Host.Normal
import TrackerGuard.Proofs.Site.Cut
import TrackerGuard.Proofs.Site.Walk
import TrackerGuard.Proofs.Url.Host
import TrackerGuard.Proofs.Verdict.Index

/-!
# How far the verdict follows a tracker list

A request is looked up by its host and the domains above it, down to its site.  So of the domains of
a list those count that lie between the host and its site, and no others:
`blocks_iff_listed_down_to_site`.

A listed domain that lies above the site does not count, although the host is one of its
subdomains and the filter of the list covers it: there the verdict falls short of the list.  Such a
domain is (a part of) the public suffix of the host, or a few of the last numbers of a numeric
address; `not_blocks_below_listed_suffix` gives the smallest one.  There are no assumptions about
the suffix rules, which may put a suffix below a domain that is none itself.
-/

namespace TrackerGuard

namespace DomainIndex

variable {domains : List String} {domain : String}

/-- Names in lower case are indexed as they are. -/
lemma entry?_of_isLowerName (h : Host.IsLowerName domain) : entry? domain = some domain :=
  entry?_eq_some_iff.mpr
    ⟨h.normalize_eq_self, h.isName.ne_empty, Filter.accepts_of_isName h.isName⟩

lemma contains_ofDomains_iff_mem (hdomains : ∀ d ∈ domains, Host.IsLowerName d) :
    (ofDomains domains).contains domain ↔ domain ∈ domains := by
  rw [contains_ofDomains_iff]
  constructor
  · rintro ⟨d, hd, hentry⟩
    rw [entry?_of_isLowerName (hdomains d hd)] at hentry
    cases hentry
    exact hd
  · intro h
    exact ⟨domain, h, entry?_of_isLowerName (hdomains domain h)⟩

end DomainIndex

namespace Verdict

variable {σ : Type} {domains : List String} {s : Safelist σ}
  {scheme host port rest page pageHost : String}

/-- The site of a name is found in normal form or not. -/
lemma registrable_normalize (r : Resolver) (hhost : Host.IsName host) :
    r.registrable (Host.normalize host) = r.registrable host := by
  rw [Resolver.registrable, hhost.isLowerName_normalize.normalize_eq_self, Resolver.registrable]

/-- A request with a web URL is blocked when its page has a host of another site that is not
exempted, and a listed domain lies between the host of the request and its site. -/
theorem blocks_url_iff (hdomains : ∀ d ∈ domains, Host.IsLowerName d)
    (hscheme : Url.IsWebScheme scheme) (hhost : Host.IsName host) (hport : Url.IsPort port) :
    blocks (.ofDomains domains) s (scheme ++ "://" ++ host ++ port ++ "/" ++ rest) page ↔
      (∃ pageHost, Url.host? page = some pageHost ∧
        s.resolver.registrable host ≠ s.resolver.registrable (Host.normalize pageHost) ∧
        ¬ s.exempts (s.resolver.registrable (Host.normalize pageHost))) ∧
      ∃ d ∈ domains, Host.Within (Host.normalize host) d ∧
        Host.Within d (s.resolver.registrable host) := by
  have hurl : Url.host? (scheme ++ "://" ++ host ++ port ++ "/" ++ rest) = some host :=
    Url.host?_ofParts hscheme hhost hport
  have hweb : Url.isWeb (scheme ++ "://" ++ host ++ port ++ "/" ++ rest) := by
    have hprefix : Url.isWeb (scheme ++ "://" ++ (host ++ port ++ "/" ++ rest)) :=
      Url.isWeb_ofScheme hscheme
    simpa only [String.append_assoc] using hprefix
  have hname := hhost.isLowerName_normalize
  have hsite : Host.Within (Host.normalize host) (s.resolver.registrable host) :=
    s.resolver.within_site _
  have hvisited (d : String) :
      d ∈ Host.suffixes (Host.normalize host) (s.resolver.registrable host) ↔
        Host.Within (Host.normalize host) d ∧ Host.Within d (s.resolver.registrable host) := by
    rw [Host.mem_suffixes_iff_between hsite]
    refine and_iff_right_of_imp ?_
    rintro ⟨hwithin, -⟩
    exact (hname.of_within hwithin).isName.ne_empty
  rw [blocks_iff]
  simp only [DomainIndex.isReady_ofDomains, hweb, hurl, true_and, Option.some.injEq,
    exists_and_left, exists_eq_left', registrable_normalize _ hhost, hvisited,
    DomainIndex.contains_ofDomains_iff_mem hdomains]
  constructor
  · rintro ⟨pageHost, hpage, -, hother, hexempt, d, ⟨hwithin, hbetween⟩, hd⟩
    exact ⟨⟨pageHost, hpage, hother, hexempt⟩, d, hd, hwithin, hbetween⟩
  · rintro ⟨⟨pageHost, hpage, hother, hexempt⟩, d, hd, hwithin, hbetween⟩
    exact ⟨pageHost, hpage, hname.isName.ne_empty, hother, hexempt, d, ⟨hwithin, hbetween⟩, hd⟩

/-- **The reach of the verdict.**  A request from a page of another site that is not exempted is
blocked exactly when some listed domain lies between its host and its site. -/
theorem blocks_iff_listed_down_to_site (hdomains : ∀ d ∈ domains, Host.IsLowerName d)
    (hscheme : Url.IsWebScheme scheme) (hhost : Host.IsName host)
    (hpage : Url.host? page = some pageHost)
    (hother : s.resolver.registrable (Host.normalize pageHost) ≠ s.resolver.registrable host)
    (hexempt : ¬ s.exempts (s.resolver.registrable (Host.normalize pageHost))) :
    blocks (.ofDomains domains) s (scheme ++ "://" ++ host ++ "/" ++ rest) page ↔
      ∃ d ∈ domains, Host.Within (Host.normalize host) d ∧
        Host.Within d (s.resolver.registrable host) := by
  have hurl : scheme ++ "://" ++ host ++ "/" ++ rest =
      scheme ++ "://" ++ host ++ "" ++ "/" ++ rest := by
    rw [String.append_empty]
  rw [hurl, blocks_url_iff hdomains hscheme hhost (.inl rfl)]
  exact and_iff_right ⟨pageHost, hpage, hother.symm, hexempt⟩

/-- A safelist with one site, and the built-in resolver. -/
def oneSite : Safelist TransientStore := ⟨{}, .builtIn, ["news.org"]⟩

/-- A host under a listed domain that lies under the site, in capital letters. -/
theorem blocks_iff_at_subdomain :
    (∀ d ∈ ["b.org", "ads.shop.co.uk"], Host.IsLowerName d) ∧ Url.IsWebScheme "WSS" ∧
      Host.IsName "X.Ads.shop.co.uk" ∧
      Url.host? "http://me@www.b.co.uk:80/" = some "www.b.co.uk" ∧
      oneSite.resolver.registrable (Host.normalize "www.b.co.uk") ≠
        oneSite.resolver.registrable "X.Ads.shop.co.uk" ∧
      ¬ oneSite.exempts (oneSite.resolver.registrable (Host.normalize "www.b.co.uk")) ∧
      (blocks (.ofDomains ["b.org", "ads.shop.co.uk"]) oneSite
          ("WSS" ++ "://" ++ "X.Ads.shop.co.uk" ++ "/" ++ "live") "http://me@www.b.co.uk:80/" ↔
        ∃ d ∈ ["b.org", "ads.shop.co.uk"], Host.Within (Host.normalize "X.Ads.shop.co.uk") d ∧
          Host.Within d (oneSite.resolver.registrable "X.Ads.shop.co.uk")) :=
  ⟨by decide, by decide, by decide, by decide, by decide, by decide,
    blocks_iff_listed_down_to_site (by decide) (by decide) (by decide)
      (show Url.host? "http://me@www.b.co.uk:80/" = some "www.b.co.uk" by decide) (by decide)
      (by decide)⟩

/-- With `com` listed, `a.com` lies under a listed domain and is not blocked all the same. -/
theorem not_blocks_below_listed_suffix :
    (∀ d ∈ ["com"], Host.IsLowerName d) ∧ Url.IsWebScheme "https" ∧ Host.IsName "a.com" ∧
      Host.Within "a.com" "com" ∧ Url.host? "https://b.org/" = some "b.org" ∧
      oneSite.resolver.registrable "b.org" ≠ oneSite.resolver.registrable "a.com" ∧
      ¬ oneSite.exempts (oneSite.resolver.registrable "b.org") ∧
      ¬ blocks (.ofDomains ["com"]) oneSite ("https" ++ "://" ++ "a.com" ++ "/" ++ "x")
        "https://b.org/" := by
  have hdomains : ∀ d ∈ ["com"], Host.IsLowerName d := by decide
  refine ⟨hdomains, by decide, by decide, .inr ⟨"a".toList, by decide⟩, by decide, by decide,
    by decide, ?_⟩
  have hurl : "https" ++ "://" ++ "a.com" ++ "/" ++ "x" =
      "https" ++ "://" ++ "a.com" ++ "" ++ "/" ++ "x" := by
    rw [String.append_empty]
  rw [hurl, blocks_url_iff hdomains (by decide) (by decide) (.inl rfl)]
  rintro ⟨-, d, hd, -, hbetween⟩
  obtain rfl := List.mem_singleton.mp hd
  have hbytes : Text.utf8Length "com".toList <
      Text.utf8Length (oneSite.resolver.registrable "a.com").toList := by decide
  rcases hbetween.eq_or_utf8Length_lt with heq | hlt
  · rw [← heq] at hbytes
    omega
  · omega

end Verdict

end TrackerGuard
