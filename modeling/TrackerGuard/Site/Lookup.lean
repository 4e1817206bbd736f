import TrackerGuard.Site.Cache
import TrackerGuard.Site.Resolver

/-!
# Look-ups through a cache

A `SiteFinder` is a resolver with a cache of sites by host.  Looking a host up takes two steps, of
which the second is needed only when the first finds nothing: the cache is read, and later the site
is stored in it.  Between the two steps of one look-up other look-ups may take theirs; `step` says
what each does to the cache and which answers are given.
-/

namespace TrackerGuard

/-- A resolver with a cache. -/
structure SiteFinder where
  resolver : Resolver
  cache : Cache

namespace SiteFinder

/-- How many sites a finder remembers. -/
def capacity : Nat := 4096

/-- A finder that has not looked anything up. -/
def ofResolver (r : Resolver) : SiteFinder := ⟨r, .empty capacity⟩

/-- The first step of a look-up: what the cache holds for the normal form of the host. -/
def consult (f : SiteFinder) (host : String) : Option String × SiteFinder :=
  let (found, cache) := f.cache.read (Host.normalize host)
  (found, { f with cache := cache })

/-- The second step: the site, which is stored in the cache. -/
def resolve (f : SiteFinder) (host : String) : String × SiteFinder :=
  let key := Host.normalize host
  let site := f.resolver.site key
  (site, { f with cache := f.cache.store key site })

/-- The site of a host. -/
def lookUp (f : SiteFinder) (host : String) : String × SiteFinder :=
  match f.consult host with
  | (some site, f) => (site, f)
  | (none, f) => f.resolve host

/-- The sites of hosts, looked up in order; `out` holds those before, backwards. -/
def lookUpAllFrom (out : List String) (f : SiteFinder) : List String → List String × SiteFinder
  | [] => (out.reverse, f)
  | host :: hosts =>
    let (site, f) := f.lookUp host
    lookUpAllFrom (site :: out) f hosts

/-- The sites of hosts, looked up in order. -/
def lookUpAll (f : SiteFinder) (hosts : List String) : List String × SiteFinder :=
  lookUpAllFrom [] f hosts

/-- Whether two hosts belong to the same site. -/
def sameSite (f : SiteFinder) (a b : String) : Bool × SiteFinder :=
  let (siteA, f) := f.lookUp a
  let (siteB, f) := f.lookUp b
  (siteA == siteB, f)

/-! ## Look-ups at the same time -/

/-- A step of one of the look-ups that are under way. -/
inductive Event where
  /-- A look-up of a host reads the cache. -/
  | begins (host : String)
  /-- A look-up that found nothing stores its site. -/
  | finishes (host : String)
  deriving DecidableEq, Repr

/-- Look-ups under way. -/
structure Traffic where
  finder : SiteFinder
  /-- The hosts of look-ups that found nothing and have not stored their site yet. -/
  waiting : List String := []
  /-- The answers given so far with their hosts, the last one first. -/
  answers : List (String × String) := []

/-- One step.  A look-up can finish only if it waits. -/
def step (t : Traffic) : Event → Traffic
  | .begins host =>
    match t.finder.consult host with
    | (some site, f) => { t with finder := f, answers := (host, site) :: t.answers }
    | (none, f) => { t with finder := f, waiting := host :: t.waiting }
  | .finishes host =>
    if host ∈ t.waiting then
      let (site, f) := t.finder.resolve host
      ⟨f, t.waiting.erase host, (host, site) :: t.answers⟩
    else t

/-- What becomes of a finder by the steps of a history. -/
def run (f : SiteFinder) (history : List Event) : Traffic := history.foldl step ⟨f, [], []⟩

end SiteFinder

end TrackerGuard
