import Mathlib
import TrackerGuard.Proofs.RuleList.Groups
import TrackerGuard.Proofs.Settings.WriteThrough
import TrackerGuard.Proofs.Site.Lookup

/-!
# A compilation depends on the set of sites

The exemptions of a rule list are made of the sites of a safelist in ascending order, each once.  So
safelists whose hosts belong to the same sites give the same rules, the same tally and the same
document (`compileVia_depends_on_sites`), in whichever order and however often the hosts are named.
It makes no difference either what the cache of sites was used for before, since a look-up gives the
site of its host in any case.

The batches of these sites are full but for the last one, which holds at least one site
(`length_groupAt`).
-/

namespace TrackerGuard

/-- Texts in ascending order, each once, are determined by which texts they are. -/
lemma sortedDistinct_congr {texts others : List String}
    (h : ∀ text, text ∈ texts ↔ text ∈ others) : sortedDistinct texts = sortedDistinct others := by
  have hsorted := pairwise_sortedDistinct texts
  refine hsorted.eq_of_mem_iff (pairwise_sortedDistinct others) fun text => ?_
  rw [mem_sortedDistinct, mem_sortedDistinct, h]

namespace RuleList

/-! ## Batches -/

section Batches

variable {α : Type} {items : Array α}

/-- The number of items in a group. -/
lemma length_groupAt (items : Array α) (i : Nat) :
    (groupAt items i).length = min groupSize (items.size - groupSize * i) := by
  rw [groupAt_eq, List.length_take, List.length_drop, Array.length_toList]

/-- All groups but the last one are full. -/
lemma length_of_mem_dropLast {group : List α}
    (hgroup : group ∈ (groups (groupCount items.size) items).dropLast) :
    group.length = groupSize := by
  cases hcount : groupCount items.size with
  | zero => simp [hcount, groups] at hgroup
  | succ count =>
      rw [hcount, groups, List.range_succ, List.map_append, List.map_singleton,
        List.dropLast_concat, List.mem_map] at hgroup
      obtain ⟨i, hi, rfl⟩ := hgroup
      have hlt : i < count := List.mem_range.mp hi
      rw [length_groupAt]
      unfold groupCount groupSize at *
      omega

/-- The last group is not empty. -/
lemma length_of_mem_getLast? {group : List α}
    (hgroup : group ∈ (groups (groupCount items.size) items).getLast?) :
    0 < group.length ∧ group.length ≤ groupSize := by
  cases hcount : groupCount items.size with
  | zero => simp [hcount, groups] at hgroup
  | succ count =>
      rw [hcount, groups, List.range_succ, List.map_append, List.map_singleton,
        List.getLast?_concat, Option.mem_some_iff] at hgroup
      subst hgroup
      rw [length_groupAt]
      unfold groupCount groupSize at *
      omega

end Batches

/-! ## Exemptions -/

variable {ceiling : Nat} {domains sites others : List String} {features : Features}

/-- The sites that are exempted, in order. -/
def exemptedSites (sites : List String) : List String := sortedDistinct (sites.filter (· ≠ ""))

lemma mem_exemptedSites {site : String} :
    site ∈ exemptedSites sites ↔ site ≠ "" ∧ site ∈ sites := by
  rw [exemptedSites, mem_sortedDistinct, List.mem_filter, and_comm, decide_eq_true_eq]

/-- The exempted sites in batches. -/
def exemptedBatches (sites : List String) : List (List String) :=
  groups (groupCount (exemptedSites sites).toArray.size) (exemptedSites sites).toArray

lemma exemptionRules_eq (sites : List String) :
    exemptionRules sites = (exemptedBatches sites).map exemptionRule := rfl

lemma flatten_exemptedBatches (sites : List String) :
    (exemptedBatches sites).flatten = exemptedSites sites := by
  rw [exemptedBatches, flatten_groups_groupCount]

/-- The rules that ignore the rules before them are the exemptions, in order. -/
lemma filter_override_assemble :
    (assemble ceiling domains sites features).rules.filter (·.action = .ignorePreviousRules) =
      exemptionRules sites := by
  have hfront (rules : List Rule) (h : ∀ rule ∈ rules, rule.action ≠ .ignorePreviousRules) :
      rules.filter (·.action = .ignorePreviousRules) = [] := by
    refine List.filter_eq_nil_iff.mpr fun rule hrule => ?_
    simpa using h rule hrule
  have hupgrade := hfront (upgradeRules features) fun rule hrule => by
    rw [action_of_mem_upgradeRules hrule]
    decide
  have hblocking := hfront (blockingRules ceiling domains sites features) fun rule hrule =>
    Action.ne_ignorePreviousRules (isBlocking_of_mem_blockingRules hrule)
  have hexemption : (exemptionRules sites).filter (·.action = .ignorePreviousRules) =
      exemptionRules sites := by
    refine List.filter_eq_self.mpr fun rule hrule => ?_
    simpa using action_of_mem_exemptionRules hrule
  rw [rules_assemble, List.filter_append, List.filter_append, hupgrade, hblocking, hexemption,
    List.nil_append, List.nil_append]

/-- What is assembled depends on the sites as a set, and not on empty ones. -/
lemma assemble_congr (h : ∀ site, site ≠ "" → (site ∈ sites ↔ site ∈ others)) :
    assemble ceiling domains sites features = assemble ceiling domains others features := by
  have hsites : exemptedSites sites = exemptedSites others := by
    refine sortedDistinct_congr fun site => ?_
    rw [List.mem_filter, List.mem_filter]
    exact and_congr_left fun hne => h site (by simpa using hne)
  have hrules : exemptionRules sites = exemptionRules others := by
    rw [exemptionRules_eq, exemptionRules_eq, exemptedBatches, exemptedBatches, hsites]
  rw [assemble, assemble, hrules]

variable {resolver : Resolver} {capacity : Nat} {finder : SiteFinder} {safelist : List String}

/-- Looking the sites up through a cache makes no difference. -/
lemma compileVia_eq (h : finder.IsSound resolver capacity) (hcapacity : 0 < capacity) :
    (compileVia finder domains safelist features).1 =
      compile resolver domains safelist features := by
  rw [compile, ← h.lookUpAll hcapacity safelist]
  rfl

/-- **Only the sites matter.**  Safelists whose hosts belong to the same sites give the same
compilation, whatever the two caches were used for before.  The entries of its exemptions, in order,
are these sites in the order of their bytes, each once and with an asterisk, in batches of twenty of
which only the last one may be shorter. -/
theorem compileVia_depends_on_sites {other : List String} (history past : List SiteFinder.Event)
    (hsame : ∀ site, site ≠ "" →
      ((∃ host ∈ safelist, resolver.registrable host = site) ↔
        ∃ host ∈ other, resolver.registrable host = site)) :
    let c := (compileVia (SiteFinder.run (.ofResolver resolver) history).finder domains safelist
      features).1
    let c' := (compileVia (SiteFinder.run (.ofResolver resolver) past).finder domains other
      features).1
    c.rules = c'.rules ∧ c.tally = c'.tally ∧ Text.bytes c.document = Text.bytes c'.document ∧
      ∃ sites : List String, (sites.Pairwise fun a b => Text.bytes a < Text.bytes b) ∧
        (∀ site, site ∈ sites ↔ site ≠ "" ∧ ∃ host ∈ safelist, resolver.registrable host = site) ∧
        ∃ batches : List (List String),
          (c.rules.filter (·.action = .ignorePreviousRules)).map (·.trigger.ifDomain) =
            batches.map some ∧
          batches.flatten = sites.map ("*" ++ ·) ∧
          (∀ batch ∈ batches.dropLast, batch.length = 20) ∧
          ∀ batch ∈ batches.getLast?, 0 < batch.length ∧ batch.length ≤ 20 := by
  intro c c'
  have hc : c = compile resolver domains safelist features :=
    compileVia_eq (SiteFinder.isTransparent_run resolver (by decide) history).finder (by decide)
  have hc' : c' = compile resolver domains other features :=
    compileVia_eq (SiteFinder.isTransparent_run resolver (by decide) past).finder (by decide)
  have heq : c = c' := by
    rw [hc, hc', compile, compile]
    refine assemble_congr fun site hne => ?_
    rw [List.mem_map, List.mem_map]
    exact hsame site hne
  refine ⟨congrArg _ heq, congrArg _ heq, congrArg (Text.bytes ·.document) heq, ?_⟩
  refine ⟨exemptedSites (safelist.map resolver.registrable), ?_, fun site => ?_, ?_⟩
  · exact (pairwise_sortedDistinct _).imp Text.lt_iff_bytes_lt.mp
  · rw [mem_exemptedSites, List.mem_map]
  refine ⟨(exemptedBatches (safelist.map resolver.registrable)).map (·.map sitePattern),
    ?_, ?_, fun batch hbatch => ?_, fun batch hbatch => ?_⟩
  · rw [hc, compile, filter_override_assemble, exemptionRules_eq, List.map_map, List.map_map]
    rfl
  · rw [← List.map_flatten, flatten_exemptedBatches]
    rfl
  · rw [← List.map_dropLast] at hbatch
    obtain ⟨batch, hmem, rfl⟩ := List.mem_map.mp hbatch
    rw [List.length_map]
    exact length_of_mem_dropLast hmem
  · rw [List.getLast?_map, Option.mem_map] at hbatch
    obtain ⟨batch, hmem, rfl⟩ := hbatch
    rw [List.length_map]
    exact length_of_mem_getLast? hmem

/-- Two sites, named by different hosts, in another order and once or twice; one finder has looked
up hosts before, among them one of these, and the other has not. -/
theorem compileVia_depends_on_two_sites :
    (∀ site, site ≠ "" →
      ((∃ host ∈ ["WWW.b.org", "a.co.uk", " . "], Resolver.builtIn.registrable host = site) ↔
        ∃ host ∈ ["x.a.co.uk", "b.org.", "m.a.co.uk"],
          Resolver.builtIn.registrable host = site)) ∧
      (compileVia (SiteFinder.run (.ofResolver .builtIn) SiteFinder.crowdedLookups).finder
          ["ads.com"] ["WWW.b.org", "a.co.uk", " . "] {}).1.document =
        (compileVia (.ofResolver .builtIn) ["ads.com"] ["x.a.co.uk", "b.org.", "m.a.co.uk"]
          {}).1.document := by
  have hsame : ∀ site, site ≠ "" →
      ((∃ host ∈ ["WWW.b.org", "a.co.uk", " . "], Resolver.builtIn.registrable host = site) ↔
        ∃ host ∈ ["x.a.co.uk", "b.org.", "m.a.co.uk"],
          Resolver.builtIn.registrable host = site) := by
    intro site hne
    have hsites : ["WWW.b.org", "a.co.uk", " . "].map Resolver.builtIn.registrable =
        ["b.org", "a.co.uk", ""] := by decide
    have hothers : ["x.a.co.uk", "b.org.", "m.a.co.uk"].map Resolver.builtIn.registrable =
        ["a.co.uk", "b.org", "a.co.uk"] := by decide
    rw [← List.mem_map, ← List.mem_map, hsites, hothers]
    simp only [List.mem_cons, List.not_mem_nil, hne, or_false]
    tauto
  obtain ⟨hrules, -⟩ := compileVia_depends_on_sites SiteFinder.crowdedLookups [] hsame
  exact ⟨hsame, congrArg Rule.writeAll hrules⟩

end RuleList

end TrackerGuard
