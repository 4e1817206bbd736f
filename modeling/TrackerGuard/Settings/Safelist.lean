import TrackerGuard.Settings.Store
import TrackerGuard.Site.Resolver

/-!
# The safelist

The sites on which the user allows trackers.  They are kept in order in memory and, as a JSON list,
in the settings.  A change that the settings do not take is undone, so that memory does not run
ahead of them.
-/

namespace TrackerGuard

/-- Texts in ascending order, each once. -/
def sortedDistinct (texts : List String) : List String :=
  (texts.mergeSort fun a b => a ≤ b).eraseReps

/-- The sites on which trackers are allowed, with what they are kept in. -/
structure Safelist (σ : Type) where
  store : σ
  resolver : Resolver
  /-- The sites in ascending order. -/
  sites : List String

namespace Safelist

/-- The key in the settings. -/
def key : String := "unblockedDomains"

/-- The sites of the texts of a list; other items, and texts without a site, do not count. -/
def sitesOf (resolver : Resolver) (items : List Json) : List String :=
  sortedDistinct (((items.filterMap Json.text?).map resolver.registrable).filter (· ≠ ""))

/-- Puts a site into its place among others. -/
def insertSite (site : String) : List String → List String
  | [] => [site]
  | s :: rest =>
    if site < s then site :: s :: rest
    else if site = s then s :: rest
    else s :: insertSite site rest

variable {σ : Type} [SettingsStore σ]

/-- The safelist that is kept in a store. -/
def load (store : σ) (resolver : Resolver) : Safelist σ where
  store := store
  resolver := resolver
  sites :=
    match SettingsStore.get? store key with
    | some (.list items) => sitesOf resolver items
    | _ => []

/-- Writes the sites into the store. -/
def persist (s : Safelist σ) : Except StoreError Unit × Safelist σ :=
  let (result, store) := SettingsStore.set s.store key (.texts s.sites)
  (result, { s with store := store })

/-- Allows trackers on the site of a host; the result tells whether that was new.  A site that
cannot be stored is taken out again. -/
def allow (s : Safelist σ) (host : String) : Except StoreError Bool × Safelist σ :=
  let site := s.resolver.registrable host
  if site = "" ∨ site ∈ s.sites then (.ok false, s)
  else
    match { s with sites := insertSite site s.sites }.persist with
    | (.ok (), s) => (.ok true, s)
    | (.error e, s) => (.error e, { s with sites := s.sites.erase site })

/-- Forbids trackers on the site of a host; the result tells whether they were allowed.  If the
other sites cannot be stored, the site is put in again. -/
def disallow (s : Safelist σ) (host : String) : Except StoreError Bool × Safelist σ :=
  let site := s.resolver.registrable host
  if site ∈ s.sites then
    match { s with sites := s.sites.erase site }.persist with
    | (.ok (), s) => (.ok true, s)
    | (.error e, s) => (.error e, { s with sites := insertSite site s.sites })
  else (.ok false, s)

/-- Whether trackers are allowed on a site. -/
def exempts (s : Safelist σ) (site : String) : Bool := s.sites.contains site

/-- Whether trackers are allowed on the site of a host. -/
def contains (s : Safelist σ) (host : String) : Bool := s.exempts (s.resolver.registrable host)

end Safelist

end TrackerGuard
