import Mathlib
import TrackerGuard.Proofs.RuleList.Groups

/-!
# Exemptions take precedence

In a compiled list the rules that block stand in front of the exemptions, and nothing else
overrides.  So a load is either exempt, and then nothing blocks it, or the rules that block and
match it are all in effect; what they do is the same for all of them.
-/

namespace TrackerGuard.RuleList

variable {ceiling : Nat} {domains sites : List String} {features : Features}
  {applies : Trigger → Bool} {rule : Rule}

lemma wellOrdered_assemble :
    Rule.wellOrdered (assemble ceiling domains sites features).rules := by
  rw [rules_assemble]
  refine Rule.wellOrdered_append (fun rule hrule => ?_) (fun rule hrule => ?_)
  · rcases List.mem_append.mp hrule with hupgrade | hblocking
    · rw [action_of_mem_upgradeRules hupgrade]
      decide
    · exact Action.ne_ignorePreviousRules (isBlocking_of_mem_blockingRules hblocking)
  · rw [action_of_mem_exemptionRules hrule]
    decide

/-- A rule in effect that blocks does what the features say. -/
lemma action_of_mem_inEffect
    (hrule : rule ∈ Rule.inEffect applies (assemble ceiling domains sites features).rules)
    (hblocking : rule.action.isBlocking) : features.blockingAction? = some rule.action :=
  have hmem := List.mem_of_mem_filter (Rule.inEffect_sublist.mem hrule)
  action_of_mem_blockingRules (blocking_iff.mp ⟨hmem, hblocking⟩)

/-- **Precedence.**  A list is well ordered when no rule that blocks stands behind an override, and
every compiled list is.  So whichever triggers match a load, it is blocked by no rule if an override
matches, and else by all rules that block and match; and all of these do the same, which is to
cancel the request whenever requests are to be blocked. -/
theorem compile_overrides_take_precedence :
    (∀ rules : List Rule, Rule.wellOrdered rules ↔
      ∀ i j (hi : i < rules.length) (hj : j < rules.length), i < j →
        rules[i].action = .ignorePreviousRules → ¬ rules[j].action.isBlocking) ∧
    ∀ resolver domains safelist features,
      let rules := (compile resolver domains safelist features).rules
      Rule.wellOrdered rules ∧ ∀ applies : Trigger → Bool,
        ((Rule.inEffect applies rules).filter (·.action.isBlocking) =
          if ∃ rule ∈ rules, rule.action = .ignorePreviousRules ∧ applies rule.trigger then []
          else rules.filter fun rule => rule.action.isBlocking && applies rule.trigger) ∧
        ∀ rule ∈ Rule.inEffect applies rules, rule.action.isBlocking →
          features.blockingAction? = some rule.action ∧
            (features.blockRequests → rule.action = .block) := by
  refine ⟨fun rules => Rule.wellOrdered_iff, ?_⟩
  intro resolver domains safelist features rules
  refine ⟨wellOrdered_assemble, fun applies => ⟨?_, fun rule hrule hblocking => ?_⟩⟩
  · exact Rule.filter_isBlocking_inEffect wellOrdered_assemble
  · have haction := action_of_mem_inEffect hrule hblocking
    refine ⟨haction, fun hrequests => ?_⟩
    rw [Features.blockingAction?, if_pos hrequests] at haction
    exact (Option.some.inj haction).symm

/-- On a page that is exempt nothing is done; on others a request is upgraded and blocked. -/
example :
    let rules := (assemble 3 ["ads.com"] ["news.org"] { upgradeToHttps := true }).rules
    Rule.inEffect (fun _ => true) rules = [] ∧
      (Rule.inEffect (·.ifDomain.isNone) rules).map Rule.action = [.makeHttps, .block] := by
  cbv

end TrackerGuard.RuleList
