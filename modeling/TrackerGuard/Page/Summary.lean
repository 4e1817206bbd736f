import TrackerGuard.Page.Entity
import TrackerGuard.Site.Resolver
import TrackerGuard.Text.Dictionary
import Std.Data.HashMap

/-!
# The trackers of a page

While a page is loaded, the hosts of its blocked requests are recorded.  Their summary tells how
many requests and hosts there were and to which organisations the requests would have gone.  The
records of pages that were left are remembered by URL, because a page that comes back from memory
does not send its requests again.
-/

namespace TrackerGuard

/-- The hosts of the blocked requests of a page, in the order of the requests. -/
structure PageRecord where
  hosts : List String := []
  deriving DecidableEq, Repr, Inhabited

/-- What is shown for a page. -/
structure PageSummary where
  /-- Blocked requests. -/
  requestCount : Nat
  /-- Distinct hosts among them. -/
  hostCount : Nat
  /-- The organisations of those requests that have one, in the order of the requests. -/
  entities : List Entity
  deriving DecidableEq, Repr

namespace PageRecord

/-- Adds the host of a blocked request. -/
def record (p : PageRecord) (host : String) : PageRecord := ⟨p.hosts ++ [host]⟩

/-- The summary of the records. -/
def summary (resolver : Resolver) (p : PageRecord) : PageSummary where
  requestCount := p.hosts.length
  hostCount := p.hosts.eraseDups.length
  entities := p.hosts.filterMap fun host => Entity.ofSite? (resolver.registrable host)

end PageRecord

namespace PageSummary

/-- The number of occurrences of each organisation, counted one by one. -/
def tally (entities : List Entity) : Std.HashMap Entity Nat :=
  entities.foldl (fun counts e => counts.insert e (counts.getD e 0 + 1)) ∅

/-- Whether a count may stand before another one: the most frequent come first, and equals in the
order of declaration. -/
def mayPrecede (a b : Entity × Nat) : Bool :=
  ((compare b.2 a.2).then (compare a.1.ctorIdx b.1.ctorIdx)).isLE

/-- How many requests went to each organisation, in order. -/
def ranking (s : PageSummary) : List (Entity × Nat) :=
  (tally s.entities).toList.mergeSort mayPrecede

end PageSummary

/-- The records of pages that were left, by URL. -/
structure PageCache where
  pages : Dictionary PageRecord := []

namespace PageCache

/-- Remembers the records of a page. -/
def remember (c : PageCache) (url : String) (p : PageRecord) : PageCache := ⟨c.pages.insert url p⟩

/-- Forgets the records of a page. -/
def forget (c : PageCache) (url : String) : PageCache := ⟨c.pages.erase url⟩

/-- The records that a page starts with. -/
def recordOf (c : PageCache) (url : String) : PageRecord := (c.pages.find? url).getD {}

end PageCache

end TrackerGuard
