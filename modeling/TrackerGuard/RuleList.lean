import TrackerGuard.Filter.Basic
import TrackerGuard.Rule.Document
import TrackerGuard.Settings.Features
import TrackerGuard.Settings.Safelist
import TrackerGuard.Site.Lookup

/-!
# Compiling rule lists

A rule list is compiled from the tracker domains, the safelist and the features.  In order it holds

1. a rule that upgrades every request, if requests are upgraded;
2. a blocking rule for every group of `groupSize` domains, limited to third-party loads;
3. rules that exempt the sites of the safelist, in groups of the same size.

A content filter takes only so many rules, so blocking rules are dropped from the end when the list
would become longer than the ceiling; the other rules are always kept.  `Compilation.tally` says
how the list came about.
-/

namespace TrackerGuard

/-- How many domains share a rule. -/
def groupSize : Nat := 20

/-- How many rules a content filter takes. -/
def ruleCeiling : Nat := 50000

/-- How a rule list came about. -/
structure Tally where
  /-- Domains that can be put into a filter. -/
  domains : Nat := 0
  /-- Domains that cannot. -/
  skippedDomains : Nat := 0
  blockingRules : Nat := 0
  safelistRules : Nat := 0
  upgradeRules : Nat := 0
  /-- Groups of domains that were dropped to keep to the ceiling. -/
  truncatedGroups : Nat := 0
  totalRules : Nat := 0
  deriving DecidableEq, Repr, Inhabited

/-- A compiled rule list. -/
structure Compilation where
  rules : List Rule := []
  tally : Tally := {}
  deriving DecidableEq, Repr, Inhabited

namespace Compilation

/-- The document of the rules. -/
def document (c : Compilation) : String := Rule.writeAll c.rules

end Compilation

namespace RuleList

/-- How many groups so many items make. -/
def groupCount (items : Nat) : Nat := (items + groupSize - 1) / groupSize

/-- The group with a number, counted from zero. -/
def groupAt {α : Type} (items : Array α) (i : Nat) : List α :=
  (items.extract (groupSize * i) (groupSize * i + groupSize)).toList

/-- The first groups of some items. -/
def groups {α : Type} (count : Nat) (items : Array α) : List (List α) :=
  (List.range count).map (groupAt items)

/-- The rule that upgrades every request, if requests are upgraded. -/
def upgradeRules (features : Features) : List Rule :=
  if features.upgradeToHttps then [⟨{ urlFilter := Filter.matchAll }, .makeHttps⟩] else []

/-- The rule for a group of domains. -/
def blockingRule (action : Action) (domains : List String) : Rule :=
  ⟨{ urlFilter := Filter.ofDomains domains, loadType := some [.thirdParty] }, action⟩

/-- The entry for a site in the condition of an exemption; the asterisk includes its subdomains. -/
def sitePattern (site : String) : String := "*" ++ site

/-- The rule that exempts a group of sites. -/
def exemptionRule (sites : List String) : Rule :=
  ⟨{ urlFilter := Filter.matchAll, ifDomain := some (sites.map sitePattern) },
    .ignorePreviousRules⟩

/-- The rules that exempt sites, given in any order and with repeats. -/
def exemptionRules (sites : List String) : List Rule :=
  let sites := (sortedDistinct (sites.filter (· ≠ ""))).toArray
  (groups (groupCount sites.size) sites).map exemptionRule

/-- Compiles a rule list of at most `ceiling` rules, as far as the rules that do not block leave
room for that. -/
def assemble (ceiling : Nat) (domains : List String) (sites : List String)
    (features : Features) : Compilation :=
  let accepted := (domains.filter Filter.accepts).toArray
  let https := upgradeRules features
  let exemptions := exemptionRules sites
  let wanted := if features.blockingAction?.isSome then groupCount accepted.size else 0
  let kept := min wanted (ceiling - (https.length + exemptions.length))
  let blocking := match features.blockingAction? with
    | none => []
    | some action => (groups kept accepted).map (blockingRule action)
  let rules := https ++ blocking ++ exemptions
  { rules := rules
    tally :=
      { domains := accepted.size
        skippedDomains := domains.length - accepted.size
        blockingRules := blocking.length
        safelistRules := exemptions.length
        upgradeRules := https.length
        truncatedGroups := wanted - kept
        totalRules := rules.length } }

/-- Compiles a rule list for the sites of the hosts of a safelist. -/
def compile (resolver : Resolver) (domains safelist : List String) (features : Features) :
    Compilation :=
  assemble ruleCeiling domains (safelist.map resolver.registrable) features

/-- Compiles a rule list with the sites looked up through a cache. -/
def compileVia (finder : SiteFinder) (domains safelist : List String) (features : Features) :
    Compilation × SiteFinder :=
  let (sites, finder) := finder.lookUpAll safelist
  (assemble ruleCeiling domains sites features, finder)

end RuleList

end TrackerGuard
