import Mathlib
import TrackerGuard.Proofs.Settings.LastChange
import TrackerGuard.Proofs.Site.Subdomain

/-!
# Exemptions of whole sites

A user who allows trackers on a host expects them to be allowed on the whole site.  Without a list
of suffixes the site of a host that is longer than its suffix is also that of all names below it, so
what is asked for one of these hosts counts for all of them.
-/

namespace TrackerGuard.Safelist

open Host

variable {σ : Type} [SettingsStore σ] {s after : Safelist σ} {c : Change} {host other : String}
  {answer : Bool}

/-- A change that does not fail decides about every host of its site. -/
lemma IsProper.contains_of_ask (h : s.IsProper) (hask : s.ask c = (.ok answer, after))
    (hsite : s.resolver.registrable other = s.resolver.registrable c.host)
    (hne : s.resolver.registrable other ≠ "") : after.contains other = c.isAllow := by
  have hafter : s.change c = after := by rw [change_eq_ask, hask]
  have hresolver : after.resolver = s.resolver := by rw [← hafter, resolver_change]
  have hexempts := h.exempts_ask (c := c) rfl hne
  rw [hask, if_pos ⟨hsite.symm, rfl⟩] at hexempts
  rw [contains, hresolver, hexempts]

/-- A name and all names below it get the same answer. -/
structure Covers (s : Safelist σ) (host : String) (allowed : Bool) : Prop where
  contains : s.contains host = allowed
  contains_below : ∀ front, CanPrecede front host → s.contains (below front host) = allowed

/-- Without a list of suffixes, a change that does not fail for a name below another one decides
about the other one and all names below it. -/
lemma IsProper.covers_of_ask (h : s.IsProper) (hresolver : s.resolver = .builtIn)
    (hlong : IsLong host) {front : List String} (hfront : CanPrecede front host)
    (hhost : c.host = below front host) (hask : s.ask c = (.ok answer, after)) :
    after.Covers host c.isAllow := by
  have hsite : s.resolver.registrable c.host = Resolver.builtIn.registrable host := by
    rw [hhost, hresolver, hlong.registrable_below hfront]
  have hcontains {other : String}
      (hother : Resolver.builtIn.registrable other = Resolver.builtIn.registrable host) :
      after.contains other = c.isAllow := by
    refine h.contains_of_ask hask ?_ ?_
    · rw [hsite, hresolver, hother]
    · rw [hresolver, hother]
      exact hlong.registrable_ne_empty
  exact ⟨hcontains rfl, fun other hother => hcontains (hlong.registrable_below hother)⟩

/-- **Without a list of suffixes a site contains all its subdomains.**  A name that is longer than
its suffix has its site in common with all names below it.  So when trackers are allowed on one of
them without a fault, whatever happened to the safelist before, they are allowed on the name and on
everything below it, and when they are forbidden on one of them later, they are forbidden on all. -/
theorem covers_whole_site (hlong : IsLong host) (store : σ) (before later : List Change) :
    (∀ front, CanPrecede front host →
      Resolver.builtIn.registrable (below front host) = Resolver.builtIn.registrable host) ∧
    ∀ front, CanPrecede front host → ∀ (answer : Bool) (allowed : Safelist σ),
      ((load store .builtIn).run before).allow (below front host) = (.ok answer, allowed) →
      allowed.Covers host true ∧
      ∀ front, CanPrecede front host → ∀ (answer : Bool) (forbidden : Safelist σ),
        (allowed.run later).disallow (below front host) = (.ok answer, forbidden) →
        forbidden.Covers host false := by
  refine ⟨fun front hfront => hlong.registrable_below hfront, ?_⟩
  intro front hfront answer allowed hallow
  have hproper := isProper_run store .builtIn before
  have hask : ((load store .builtIn).run before).ask (.allow (below front host)) =
      (.ok answer, allowed) := hallow
  have hrun : (load store .builtIn).run (before ++ .allow (below front host) :: later) =
      allowed.run later := by
    rw [run, List.foldl_append, List.foldl_cons, ← run, ← run, change_eq_ask, hask]
  refine ⟨hproper.covers_of_ask (resolver_run _ before) hlong hfront rfl hask, ?_⟩
  intro front hfront answer forbidden hdisallow
  have hproper' : (allowed.run later).IsProper := hrun ▸ isProper_run store .builtIn _
  have hresolver : (allowed.run later).resolver = .builtIn := hrun ▸ resolver_run _ _
  exact hproper'.covers_of_ask (c := .disallow (below front host)) hresolver hlong hfront rfl
    hdisallow

/-- On a disk that was full, a shop is allowed on one of its hosts and forbidden on another. -/
theorem covers_whole_site_of_shop :
    IsLong "Shop.CO.uk" ∧ CanPrecede ["www"] "Shop.CO.uk" ∧ CanPrecede ["1", "2"] "Shop.CO.uk" ∧
      ∃ allowed forbidden, crowdedRun.allow "www.Shop.CO.uk" = (.ok true, allowed) ∧
        allowed.contains "Shop.CO.uk" ∧ allowed.contains "1.2.Shop.CO.uk" ∧
        (allowed.run [.disallow "a.com"]).disallow "1.2.Shop.CO.uk" = (.ok true, forbidden) ∧
        forbidden.contains "Shop.CO.uk" = false ∧ forbidden.contains "www.Shop.CO.uk" = false := by
  have hlong : IsLong "Shop.CO.uk" :=
    ⟨by decide, by decide, by decide, fun _ _ _ _ => by decide⟩
  have hwww : CanPrecede ["www"] "Shop.CO.uk" := ⟨by decide, by decide⟩
  have hnumbers : CanPrecede ["1", "2"] "Shop.CO.uk" := ⟨by decide, by decide⟩
  have hbelow : below ["www"] "Shop.CO.uk" = "www.Shop.CO.uk" := by decide
  have hbelow' : below ["1", "2"] "Shop.CO.uk" = "1.2.Shop.CO.uk" := by decide
  have hallow : (crowdedRun.allow "www.Shop.CO.uk").1 = .ok true := by decide +kernel
  have hdisallow : (((crowdedRun.allow "www.Shop.CO.uk").2.run [.disallow "a.com"]).disallow
      "1.2.Shop.CO.uk").1 = .ok true := by
    decide +kernel
  obtain ⟨-, hwhole⟩ := covers_whole_site hlong crowdedSites
    [.allow "M.a.com", .disallow "b.org"] [.disallow "a.com"]
  obtain ⟨hallowed, hlater⟩ := hwhole ["www"] hwww true (crowdedRun.allow "www.Shop.CO.uk").2 (by
    rw [hbelow]
    exact Prod.ext hallow rfl)
  have hforbidden := hlater ["1", "2"] hnumbers true _ (by
    rw [hbelow']
    exact Prod.ext hdisallow rfl)
  refine ⟨hlong, hwww, hnumbers, _, _, Prod.ext hallow rfl, hallowed.contains, ?_,
    Prod.ext hdisallow rfl, hforbidden.contains, ?_⟩
  · rw [← hbelow']
    exact hallowed.contains_below _ hnumbers
  · rw [← hbelow]
    exact hforbidden.contains_below _ hwww

end TrackerGuard.Safelist
