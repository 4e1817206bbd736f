import TrackerGuard.Filter.Grammar
import TrackerGuard.Page.Summary
import TrackerGuard.Settings.Safelist
import TrackerGuard.Site.Walk
import TrackerGuard.Url
import Std.Data.HashSet

/-!
# Matching requests

A platform enforces the compiled rules by itself and does not tell what it blocked.  The matcher
decides the same question again for each request, so that blocked requests can be counted for the
page that made them.  It looks the host of a request and the domains above it up in an index that is
built from the tracker list.

Whatever is in doubt is not blocked: a URL without a host, another scheme than those of the web, an
index that is not loaded yet, a request within the site of the page, a page on the safelist.
-/

namespace TrackerGuard

/-- The tracker domains, once they are loaded. -/
structure DomainIndex where
  domains : Option (Std.HashSet String) := none

namespace DomainIndex

/-- The form in which a domain is indexed; one that is empty, or that cannot be put into a filter,
is not. -/
def entry? (domain : String) : Option String :=
  let domain := Host.normalize domain
  if domain = "" || (Filter.fault? domain).isSome then none else some domain

/-- The set of the domains of a list. -/
def setOf (domains : List String) : Std.HashSet String := .ofList (domains.filterMap entry?)

/-- The index of a list. -/
def ofDomains (domains : List String) : DomainIndex := ⟨some (setOf domains)⟩

/-- Loads the index, if it is not loaded yet; the result tells whether it was not. -/
def install (t : DomainIndex) (domains : List String) : Bool × DomainIndex :=
  match t.domains with
  | none => (true, ofDomains domains)
  | some _ => (false, t)

/-- Whether the index is loaded. -/
def isReady (t : DomainIndex) : Bool := t.domains.isSome

/-- The number of domains. -/
def size (t : DomainIndex) : Nat := t.domains.elim 0 (·.size)

/-- Whether a domain is in the index. -/
def contains (t : DomainIndex) (domain : String) : Bool := t.domains.any (·.contains domain)

end DomainIndex

namespace Verdict

variable {σ : Type} [SettingsStore σ]

/-- The host of a request that is blocked on a page. -/
def tracker? (index : DomainIndex) (safelist : Safelist σ) (request page : String) :
    Option String := do
  if !index.isReady || !Url.isWeb request then none
  let host := Host.normalize (← Url.host? request)
  if host = "" then none
  let pageHost := Host.normalize (← Url.host? page)
  let site := safelist.resolver.registrable host
  let pageSite := safelist.resolver.registrable pageHost
  if site = pageSite || safelist.exempts pageSite then none
  if (Host.suffixes host site).any index.contains then some host else none

/-- Whether a request is blocked on a page. -/
def blocks (index : DomainIndex) (safelist : Safelist σ) (request page : String) : Bool :=
  (tracker? index safelist request page).isSome

/-- Decides a request and records its host if it is blocked. -/
def record (index : DomainIndex) (safelist : Safelist σ) (request page : String)
    (log : PageRecord) : Bool × PageRecord :=
  match tracker? index safelist request page with
  | some host => (true, log.record host)
  | none => (false, log)

end Verdict

end TrackerGuard
