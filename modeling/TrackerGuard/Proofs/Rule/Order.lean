import Mathlib
import TrackerGuard.Rule.Basic

/-!
# Overrides behind what they override

A list is well ordered when no rule that blocks stands behind an override (`wellOrdered_iff`): the
checker compares only the last rule that blocks with the first override, and these two are the pair
that fails if any does.

A content filter goes through a list in order, and an override that matches cancels the rules before
it.  What is in effect in the end are the matching rules behind the last override that matches.  So
in a well-ordered list an override that matches cancels all blocking, and without one no blocking
is lost: `filter_isBlocking_inEffect`.
-/

namespace TrackerGuard

/-- No action both blocks and overrides. -/
lemma Action.ne_ignorePreviousRules {a : Action} (h : a.isBlocking) :
    a ≠ .ignorePreviousRules := by
  rintro rfl
  exact absurd h (by decide)

namespace Rule

variable {rules front back : List Rule} {r : Rule} {applies : Trigger → Bool}

/-! ## The checker -/

lemma firstOverride?_eq_none (h : firstOverride? rules = none) :
    ∀ r ∈ rules, r.action ≠ .ignorePreviousRules := by
  simpa [firstOverride?] using h

lemma firstOverride?_eq_some {i : Nat} (h : firstOverride? rules = some i) :
    ∃ hi : i < rules.length, rules[i].action = .ignorePreviousRules ∧
      ∀ j (hj : j < rules.length), rules[j].action = .ignorePreviousRules → i ≤ j := by
  obtain ⟨hi, haction, hbefore⟩ := List.findIdx?_eq_some_iff_getElem.mp h
  refine ⟨hi, by simpa using haction, fun j hj hother => ?_⟩
  by_contra hlt
  exact hbefore j (by omega) (by simpa using hother)

lemma lastBlocking?_eq_none (h : lastBlocking? rules = none) :
    ∀ r ∈ rules, ¬ r.action.isBlocking := by
  simpa [lastBlocking?] using h

lemma lastBlocking?_eq_some {j : Nat} (h : lastBlocking? rules = some j) :
    ∃ hj : j < rules.length, rules[j].action.isBlocking ∧
      ∀ i (hi : i < rules.length), rules[i].action.isBlocking → i ≤ j := by
  obtain ⟨back, hback, rfl⟩ := Option.map_eq_some_iff.mp h
  obtain ⟨hlt, hblocking, hbehind⟩ := List.findIdx?_eq_some_iff_getElem.mp hback
  rw [List.length_reverse] at hlt
  rw [List.getElem_reverse] at hblocking
  refine ⟨by omega, hblocking, fun i hi hother => ?_⟩
  by_contra hgt
  refine hbehind (rules.length - 1 - i) (by omega) ?_
  rw [List.getElem_reverse]
  have hindex : rules.length - 1 - (rules.length - 1 - i) = i := by omega
  simpa only [hindex] using hother

/-- No rule that blocks stands behind an override. -/
theorem wellOrdered_iff : wellOrdered rules ↔
    ∀ i j (hi : i < rules.length) (hj : j < rules.length), i < j →
      rules[i].action = .ignorePreviousRules → ¬ rules[j].action.isBlocking := by
  cases hlast : lastBlocking? rules with
  | none =>
      have hnone := lastBlocking?_eq_none hlast
      simp only [wellOrdered, hlast, true_iff]
      exact fun i j _ hj _ _ => hnone _ (List.getElem_mem hj)
  | some b =>
      obtain ⟨hb, hblocking, hle⟩ := lastBlocking?_eq_some hlast
      cases hfirst : firstOverride? rules with
      | none =>
          have hnone := firstOverride?_eq_none hfirst
          simp only [wellOrdered, hlast, hfirst, true_iff]
          exact fun i j hi _ _ haction => absurd haction (hnone _ (List.getElem_mem hi))
      | some o =>
          obtain ⟨ho, hoverride, hge⟩ := firstOverride?_eq_some hfirst
          simp only [wellOrdered, hlast, hfirst, decide_eq_true_eq]
          constructor
          · intro hlt i j hi hj hij haction hother
            have hoi : o ≤ i := hge i hi haction
            have hjb : j ≤ b := hle j hj hother
            omega
          · intro hordered
            by_contra hge
            have hne : o ≠ b := by
              rintro rfl
              exact Action.ne_ignorePreviousRules hblocking hoverride
            exact hordered o b ho hb (by omega) hoverride hblocking

lemma wellOrdered_iff_pairwise : wellOrdered rules ↔
    rules.Pairwise fun r s => r.action = .ignorePreviousRules → ¬ s.action.isBlocking := by
  rw [wellOrdered_iff, List.pairwise_iff_getElem]

/-- Rules without an override before rules that do not block. -/
lemma wellOrdered_append (hfront : ∀ r ∈ front, r.action ≠ .ignorePreviousRules)
    (hback : ∀ r ∈ back, ¬ r.action.isBlocking) : wellOrdered (front ++ back) := by
  rw [wellOrdered_iff_pairwise, List.pairwise_append]
  refine ⟨List.pairwise_of_forall_mem_list ?_, List.pairwise_of_forall_mem_list ?_, ?_⟩
  · exact fun r hr s _ haction => absurd haction (hfront r hr)
  · exact fun r _ s hs _ => hback s hs
  · exact fun r hr s _ haction => absurd haction (hfront r hr)

/-! ## What is in effect -/

/-- What the last rule of a list makes of what is in effect before it. -/
lemma inEffect_concat : inEffect applies (rules ++ [r]) =
    if !applies r.trigger then inEffect applies rules
    else if r.action = .ignorePreviousRules then []
    else inEffect applies rules ++ [r] := by
  rw [inEffect, List.foldl_concat]
  rfl

/-- Only rules that match are in effect. -/
lemma inEffect_sublist : (inEffect applies rules).Sublist (rules.filter (applies ·.trigger)) := by
  induction rules using List.reverseRecOn with
  | nil => exact .slnil
  | append_singleton rules r ih =>
      rw [inEffect_concat, List.filter_append]
      cases happlies : applies r.trigger with
      | false => simpa [happlies] using ih
      | true =>
          by_cases haction : r.action = .ignorePreviousRules
          · simp [haction]
          · simpa [happlies, haction] using ih.append_right [r]

/-- Without an override that matches, all rules that match are in effect. -/
lemma inEffect_eq_filter
    (h : ∀ r ∈ rules, r.action = .ignorePreviousRules → ¬ applies r.trigger) :
    inEffect applies rules = rules.filter (applies ·.trigger) := by
  induction rules using List.reverseRecOn with
  | nil => rfl
  | append_singleton rules r ih =>
      rw [List.forall_mem_append, List.forall_mem_singleton] at h
      rw [inEffect_concat, List.filter_append, ih h.1]
      cases happlies : applies r.trigger with
      | false => simp [happlies]
      | true =>
          have haction : r.action ≠ .ignorePreviousRules := fun haction => h.2 haction happlies
          simp [happlies, haction]

/-- An override that matches leaves nothing of the rules before it. -/
lemma inEffect_append_override (haction : r.action = .ignorePreviousRules)
    (happlies : applies r.trigger) :
    inEffect applies (front ++ r :: back) = inEffect applies back := by
  rw [inEffect, List.foldl_append, List.foldl_cons, happlies, haction]
  rfl

/-- In a well-ordered list an override that matches cancels all blocking, and without one all rules
that block and match are in effect. -/
theorem filter_isBlocking_inEffect (hordered : wellOrdered rules) :
    (inEffect applies rules).filter (·.action.isBlocking) =
      if ∃ r ∈ rules, r.action = .ignorePreviousRules ∧ applies r.trigger then []
      else rules.filter fun r => r.action.isBlocking && applies r.trigger := by
  split_ifs with hoverride
  · obtain ⟨r, hr, haction, happlies⟩ := hoverride
    obtain ⟨front, back, rfl⟩ := List.append_of_mem hr
    rw [wellOrdered_iff_pairwise, List.pairwise_append, List.pairwise_cons] at hordered
    obtain ⟨-, ⟨hbehind, -⟩, -⟩ := hordered
    rw [inEffect_append_override haction happlies, List.filter_eq_nil_iff]
    intro s hs
    exact hbehind s (List.mem_of_mem_filter (inEffect_sublist.mem hs)) haction
  · rw [inEffect_eq_filter, List.filter_filter]
    intro r hr haction happlies
    exact hoverride ⟨r, hr, haction, happlies⟩

end Rule

end TrackerGuard
