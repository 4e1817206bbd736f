import Mathlib
import TrackerGuard.Proofs.Rule.Order
import TrackerGuard.RuleList

/-!
# Groups of items

Groups are cut off the front of the items one after another, so the first groups hold the first
items, in order (`flatten_groups`), and enough groups hold all of them.  From this follows what a
compiled list is made of (`rules_assemble`, `tally_assemble`): a rule that blocks is the rule of a
group of accepted domains that there is room for, and every accepted domain is in such a group
unless groups were dropped; a rule that ignores the rules before it is the rule of a group of sites,
and every site is in one.
-/

namespace TrackerGuard.RuleList

/-! ## Cutting -/

section Cutting

variable {α : Type} (items : Array α) (count : Nat)

lemma groupAt_eq : groupAt items count =
    (items.toList.drop (groupSize * count)).take groupSize := by
  rw [groupAt, Array.toList_extract, List.extract, Nat.add_sub_cancel_left]

/-- The first groups hold the first items. -/
theorem flatten_groups :
    (groups count items).flatten = items.toList.take (groupSize * count) := by
  induction count with
  | zero => simp [groups]
  | succ count ih =>
      have hsnoc : groups (count + 1) items = groups count items ++ [groupAt items count] := by
        rw [groups, List.range_succ, List.map_append]
        rfl
      rw [hsnoc, List.flatten_append, ih, List.flatten_singleton, groupAt_eq, Nat.mul_succ,
        List.take_add]

lemma le_groupSize_mul_groupCount : count ≤ groupSize * groupCount count := by
  unfold groupCount groupSize
  omega

lemma flatten_groups_groupCount :
    (groups (groupCount items.size) items).flatten = items.toList := by
  rw [flatten_groups, List.take_of_length_le (le_groupSize_mul_groupCount items.size)]

lemma groupCount_eq_ceilDiv : groupCount count = count ⌈/⌉ groupSize :=
  (Nat.ceilDiv_eq_add_pred_div count groupSize).symm

@[simp] lemma length_groups : (groups count items).length = count := by
  rw [groups, List.length_map, List.length_range]

variable {items count}

lemma mem_of_mem_groups {group : List α} {x : α} (hgroup : group ∈ groups count items)
    (hx : x ∈ group) : x ∈ items := by
  have hflat : x ∈ (groups count items).flatten := List.mem_flatten.mpr ⟨group, hgroup, hx⟩
  rw [flatten_groups] at hflat
  exact Array.mem_toList_iff.mp (List.mem_of_mem_take hflat)

/-- Enough groups hold every item. -/
lemma mem_groups_groupCount_iff {x : α} :
    (∃ group ∈ groups (groupCount items.size) items, x ∈ group) ↔ x ∈ items := by
  rw [← List.mem_flatten, flatten_groups_groupCount, Array.mem_toList_iff]

end Cutting

/-! ## The rules of a list -/

variable {ceiling : Nat} {domains sites : List String} {features : Features} {action : Action}
  {rule : Rule}

/-- The domains of a list that can be put into filters, in groups. -/
def domainGroups (domains : List String) : List (List String) :=
  groups (groupCount (domains.filter Filter.accepts).toArray.size)
    (domains.filter Filter.accepts).toArray

lemma mem_domainGroups_iff {domain : String} :
    (∃ group ∈ domainGroups domains, domain ∈ group) ↔
      domain ∈ domains ∧ Filter.accepts domain := by
  rw [domainGroups, mem_groups_groupCount_iff]
  simp

/-- The domains of a list that can be put into filters, in the order of the list. -/
def accepted (domains : List String) : List String := domains.filter Filter.accepts

/-- How many rules do not block. -/
def otherRules (sites : List String) (features : Features) : Nat :=
  (upgradeRules features).length + (exemptionRules sites).length

/-- How many groups the accepted domains make, if there is anything to be done to requests. -/
def wantedGroups (domains : List String) (features : Features) : Nat :=
  if features.blockingAction?.isSome then (accepted domains).length ⌈/⌉ groupSize else 0

/-- How many of these groups have a rule: as many as there is room for. -/
def keptGroups (ceiling : Nat) (domains sites : List String) (features : Features) : Nat :=
  min (wantedGroups domains features) (ceiling - otherRules sites features)

/-- The rules of the groups that are kept. -/
def blockingRules (ceiling : Nat) (domains sites : List String) (features : Features) :
    List Rule :=
  match features.blockingAction? with
  | none => []
  | some action =>
    (groups (keptGroups ceiling domains sites features)
      (accepted domains).toArray).map (blockingRule action)

lemma rules_assemble : (assemble ceiling domains sites features).rules =
    upgradeRules features ++ blockingRules ceiling domains sites features ++
      exemptionRules sites := by
  rw [assemble, blockingRules, keptGroups, wantedGroups, ← groupCount_eq_ceilDiv]
  rfl

lemma length_blockingRules : (blockingRules ceiling domains sites features).length =
    keptGroups ceiling domains sites features := by
  rw [blockingRules]
  cases haction : features.blockingAction? with
  | none => simp [keptGroups, wantedGroups, haction]
  | some action => rw [List.length_map, length_groups]

lemma length_rules_assemble : (assemble ceiling domains sites features).rules.length =
    keptGroups ceiling domains sites features + otherRules sites features := by
  rw [rules_assemble, List.length_append, List.length_append, length_blockingRules, otherRules]
  omega

lemma tally_assemble : (assemble ceiling domains sites features).tally =
    { domains := (accepted domains).length
      skippedDomains := domains.length - (accepted domains).length
      blockingRules := (blockingRules ceiling domains sites features).length
      safelistRules := (exemptionRules sites).length
      upgradeRules := (upgradeRules features).length
      truncatedGroups := wantedGroups domains features - keptGroups ceiling domains sites features
      totalRules := (assemble ceiling domains sites features).rules.length } := by
  rw [blockingRules, keptGroups, wantedGroups, ← groupCount_eq_ceilDiv]
  rfl

lemma isBlocking_of_blockingAction? (h : features.blockingAction? = some action) :
    action.isBlocking := by
  unfold Features.blockingAction? at h
  split_ifs at h <;> cases h <;> rfl

lemma action_of_mem_upgradeRules (h : rule ∈ upgradeRules features) :
    rule.action = .makeHttps := by
  unfold upgradeRules at h
  split_ifs at h
  · rw [List.mem_singleton.mp h]
  · exact absurd h List.not_mem_nil

lemma action_of_mem_blockingRules (h : rule ∈ blockingRules ceiling domains sites features) :
    features.blockingAction? = some rule.action := by
  cases haction : features.blockingAction? with
  | none => simp [blockingRules, haction] at h
  | some action =>
      simp only [blockingRules, haction] at h
      obtain ⟨group, -, rfl⟩ := List.mem_map.mp h
      rfl

lemma isBlocking_of_mem_blockingRules (h : rule ∈ blockingRules ceiling domains sites features) :
    rule.action.isBlocking :=
  isBlocking_of_blockingAction? (action_of_mem_blockingRules h)

lemma action_of_mem_exemptionRules (h : rule ∈ exemptionRules sites) :
    rule.action = .ignorePreviousRules := by
  obtain ⟨group, -, rfl⟩ := List.mem_map.mp h
  rfl

/-- The rules that block are those of the groups that are kept. -/
lemma filter_isBlocking_assemble :
    (assemble ceiling domains sites features).rules.filter (·.action.isBlocking) =
      blockingRules ceiling domains sites features := by
  have hupgrade : (upgradeRules features).filter (·.action.isBlocking) = [] := by
    refine List.filter_eq_nil_iff.mpr fun rule h => ?_
    rw [action_of_mem_upgradeRules h]
    decide
  have hblocking : (blockingRules ceiling domains sites features).filter (·.action.isBlocking) =
      blockingRules ceiling domains sites features :=
    List.filter_eq_self.mpr fun rule => isBlocking_of_mem_blockingRules
  have hexemption : (exemptionRules sites).filter (·.action.isBlocking) = [] := by
    refine List.filter_eq_nil_iff.mpr fun rule h => ?_
    rw [action_of_mem_exemptionRules h]
    decide
  rw [rules_assemble, List.filter_append, List.filter_append, hupgrade, hblocking, hexemption,
    List.nil_append, List.append_nil]

lemma blocking_iff : rule ∈ (assemble ceiling domains sites features).rules ∧
    rule.action.isBlocking ↔ rule ∈ blockingRules ceiling domains sites features := by
  rw [← filter_isBlocking_assemble, List.mem_filter]

/-- With no group dropped, the rules that block are those of the groups of domains. -/
theorem blocking_iff_of_no_truncation (haction : features.blockingAction? = some action)
    (hkept : (assemble ceiling domains sites features).tally.truncatedGroups = 0) :
    rule ∈ (assemble ceiling domains sites features).rules ∧ rule.action.isBlocking ↔
      ∃ group ∈ domainGroups domains, blockingRule action group = rule := by
  have hwanted : wantedGroups domains features = groupCount (accepted domains).toArray.size := by
    rw [wantedGroups, haction, groupCount_eq_ceilDiv, List.size_toArray]
    rfl
  have hall : keptGroups ceiling domains sites features = wantedGroups domains features := by
    rw [tally_assemble] at hkept
    exact le_antisymm (min_le_left _ _) (Nat.sub_eq_zero_iff_le.mp hkept)
  rw [blocking_iff, blockingRules, haction, hall, hwanted]
  exact List.mem_map

/-- No group is dropped as long as there is room for all rules. -/
lemma truncatedGroups_eq_zero (hroom : groupCount (domains.filter Filter.accepts).length +
    ((upgradeRules features).length + (exemptionRules sites).length) ≤ ceiling) :
    (assemble ceiling domains sites features).tally.truncatedGroups = 0 := by
  have hwanted : wantedGroups domains features ≤
      groupCount (domains.filter Filter.accepts).length := by
    rw [wantedGroups, groupCount_eq_ceilDiv]
    split_ifs
    · exact le_rfl
    · exact Nat.zero_le _
  rw [tally_assemble]
  refine Nat.sub_eq_zero_of_le (le_min le_rfl ?_)
  rw [otherRules]
  omega

@[simp] lemma exemptionRules_nil : exemptionRules [] = [] := by
  simp [exemptionRules, sortedDistinct, List.eraseReps, List.eraseRepsBy, groups, groupCount,
    groupSize]

/-- The rules that ignore the rules before them are the exemptions. -/
theorem override_iff :
    rule ∈ (assemble ceiling domains sites features).rules ∧ rule.action = .ignorePreviousRules ↔
      rule ∈ exemptionRules sites := by
  rw [rules_assemble, List.mem_append, List.mem_append]
  constructor
  · rintro ⟨(hupgrade | hblocking) | hexemption, hoverride⟩
    · rw [action_of_mem_upgradeRules hupgrade] at hoverride
      exact absurd hoverride (by decide)
    · have hisBlocking := isBlocking_of_mem_blockingRules hblocking
      exact absurd hoverride (Action.ne_ignorePreviousRules hisBlocking)
    · exact hexemption
  · intro hexemption
    exact ⟨.inr hexemption, action_of_mem_exemptionRules hexemption⟩

end TrackerGuard.RuleList
