import Mathlib
import TrackerGuard.Proofs.RuleList.Groups

/-!
# Keeping to the ceiling

The rules that do not block are all kept.  Those that block get the room that is left: the first
groups of the accepted domains have a rule each, and the groups behind them are dropped.  So the
domains that are used are the first ones that were accepted, each of them in one rule; the tally
adds up; and a list that had to drop a group is as long as the ceiling, or as the rules that do not
block where they alone pass it.

The tally is computed by subtractions.  They are stated as sums here (`skipped_add` and
`truncated_add`), which would not hold if more were taken away than there is.
-/

namespace TrackerGuard.RuleList

/-- The items of group `i`; the last group may be short. -/
def slice (items : List String) (i : Nat) : List String :=
  items.extract (groupSize * i) (min (groupSize * i + groupSize) items.length)

/-! ## Groups by position -/

lemma groupAt_eq_slice (items : List String) (i : Nat) :
    groupAt items.toArray i = slice items i := by
  rw [groupAt_eq, slice, List.extract]
  rcases le_total (groupSize * i + groupSize) items.length with hfull | hshort
  · rw [min_eq_left hfull, Nat.add_sub_cancel_left]
  · have hrest : (items.drop (groupSize * i)).length ≤ groupSize := by
      rw [List.length_drop]
      omega
    rw [min_eq_right hshort, List.take_of_length_le hrest,
      List.take_of_length_le List.length_drop.le]

lemma groups_eq_slices (items : List String) (count : Nat) :
    groups count items.toArray = (List.range count).map (slice items) :=
  List.map_congr_left fun i _ => groupAt_eq_slice items i

/-- A position among the first groups is in one of them. -/
lemma existsUnique_group {count size p : Nat} (hsize : p < size) (hp : p < groupSize * count) :
    ∃! i, i < count ∧ groupSize * i ≤ p ∧ p < min (groupSize * i + groupSize) size := by
  have hpos : 0 < groupSize := by decide
  refine ⟨p / groupSize, ⟨Nat.div_lt_of_lt_mul hp, Nat.mul_div_le p groupSize, ?_⟩, ?_⟩
  · exact lt_min (Nat.lt_mul_div_succ p hpos) hsize
  · rintro i ⟨-, hfrom, hto⟩
    have hbefore : p < (i + 1) * groupSize := by
      rw [Nat.add_one_mul, Nat.mul_comm]
      exact hto.trans_le (min_le_left _ _)
    rw [Nat.mul_comm] at hfrom
    exact (Nat.div_eq_of_lt_le hfrom hbefore).symm

/-! ## Compilations -/

/-- What a compilation of domains for some sites comes to when it keeps to a ceiling.  It has a
rule for each of the first `keptGroups` groups of the accepted domains. -/
structure KeepsToCeiling (ceiling : Nat) (domains sites : List String) (features : Features)
    (c : Compilation) : Prop where
  /-- The rules that do not block are all there, around those that do. -/
  rules_eq : c.rules =
    upgradeRules features ++ c.rules.filter (·.action.isBlocking) ++ exemptionRules sites
  /-- Each group that is kept has a rule, in order. -/
  blocking_eq : c.rules.filter (·.action.isBlocking) =
    match features.blockingAction? with
    | none => []
    | some action =>
      (List.range (keptGroups ceiling domains sites features)).map fun i =>
        ⟨{ urlFilter := Filter.ofDomains (slice (accepted domains) i)
           loadType := some [.thirdParty] }, action⟩
  /-- The groups that are kept hold the first accepted domains, one after another. -/
  flatten_eq :
    ((List.range (keptGroups ceiling domains sites features)).map
      (slice (accepted domains))).flatten =
        (accepted domains).take (groupSize * keptGroups ceiling domains sites features)
  /-- Each of these domains is in one group. -/
  existsUnique : ∀ p < (accepted domains).length,
    p < groupSize * keptGroups ceiling domains sites features →
      ∃! i, i < keptGroups ceiling domains sites features ∧ groupSize * i ≤ p ∧
        p < min (groupSize * i + groupSize) (accepted domains).length
  domains_eq : c.tally.domains = (accepted domains).length
  /-- A domain is either accepted or skipped. -/
  skipped_add : c.tally.skippedDomains + c.tally.domains = domains.length
  blockingRules_eq : c.tally.blockingRules = keptGroups ceiling domains sites features
  upgradeRules_eq : c.tally.upgradeRules = (upgradeRules features).length
  safelistRules_eq : c.tally.safelistRules = (exemptionRules sites).length
  /-- A group is either dropped or kept. -/
  truncated_add : c.tally.truncatedGroups + keptGroups ceiling domains sites features =
    wantedGroups domains features
  totalRules_eq : c.tally.totalRules = c.rules.length
  total_add : c.tally.totalRules =
    c.tally.upgradeRules + c.tally.blockingRules + c.tally.safelistRules
  total_le : c.tally.totalRules ≤ max ceiling (otherRules sites features)
  /-- A list that dropped a group is full. -/
  full : c.tally.truncatedGroups ≠ 0 →
    c.tally.totalRules = max ceiling (otherRules sites features)

/-- The rules of the groups that are kept, group by group. -/
lemma blockingRules_eq_slices (ceiling : Nat) (domains sites : List String)
    (features : Features) :
    blockingRules ceiling domains sites features =
      match features.blockingAction? with
      | none => []
      | some action =>
        (List.range (keptGroups ceiling domains sites features)).map fun i =>
          blockingRule action (slice (accepted domains) i) := by
  rw [blockingRules]
  cases features.blockingAction? with
  | none => rfl
  | some action =>
      simp only [groups_eq_slices, List.map_map]
      rfl

/-- **The ceiling.**  Whatever the sites, a compiled list has rules for as many groups of the
accepted domains as there are and as the ceiling leaves room for. -/
theorem assemble_keepsToCeiling (ceiling : Nat) (domains sites : List String)
    (features : Features) :
    KeepsToCeiling ceiling domains sites features (assemble ceiling domains sites features) := by
  have hkept : keptGroups ceiling domains sites features =
    min (wantedGroups domains features) (ceiling - otherRules sites features) := rfl
  have hdropped : (assemble ceiling domains sites features).tally.truncatedGroups =
      wantedGroups domains features - keptGroups ceiling domains sites features := by
    rw [tally_assemble]
  have htotal : (assemble ceiling domains sites features).tally.totalRules =
      keptGroups ceiling domains sites features + otherRules sites features := by
    rw [tally_assemble, length_rules_assemble]
  constructor
  case rules_eq => rw [filter_isBlocking_assemble, ← rules_assemble]
  case blocking_eq => rw [filter_isBlocking_assemble, blockingRules_eq_slices]; rfl
  case flatten_eq => rw [← groups_eq_slices, flatten_groups]
  case existsUnique => exact fun p hsize hp => existsUnique_group hsize hp
  case domains_eq => rw [tally_assemble]
  case skipped_add =>
    rw [tally_assemble]
    exact Nat.sub_add_cancel (List.length_filter_le _ _)
  case blockingRules_eq => rw [tally_assemble, length_blockingRules]
  case upgradeRules_eq => rw [tally_assemble]
  case safelistRules_eq => rw [tally_assemble]
  case truncated_add => omega
  case totalRules_eq => rw [tally_assemble]
  case total_add =>
    have hsum : keptGroups ceiling domains sites features + otherRules sites features =
        (upgradeRules features).length + keptGroups ceiling domains sites features +
          (exemptionRules sites).length := by
      rw [otherRules]
      omega
    rw [htotal, hsum, tally_assemble, length_blockingRules]
  case total_le => omega
  case full => omega

/-- Three groups that have to share a ceiling of two rules with one exemption. -/
example : (assemble 2 (List.replicate 41 "a.com") ["b.com"] {}).tally =
    { domains := 41, blockingRules := 1, safelistRules := 1, truncatedGroups := 2,
      totalRules := 2 } := by
  cbv

end TrackerGuard.RuleList
