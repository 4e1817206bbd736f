import Mathlib
import TrackerGuard.Proofs.Filter.Fault
import TrackerGuard.Verdict

/-!
# What the tracker index holds

The index of a list holds the normal forms of its domains, as far as they are not empty and can be
put into a filter.
-/

namespace TrackerGuard

namespace DomainIndex

variable {domains : List String} {domain entry : String}

lemma entry?_eq_some_iff :
    entry? domain = some entry ↔
      Host.normalize domain = entry ∧ entry ≠ "" ∧ Filter.accepts entry := by
  rw [← Filter.fault?_eq_none_iff, ← Option.isNone_iff_eq_none, entry?]
  by_cases hempty : Host.normalize domain = ""
  · rw [if_pos (by simp [hempty]), hempty]
    constructor
    · nofun
    · rintro ⟨rfl, hne, -⟩
      exact absurd rfl hne
  · cases hfault : Filter.fault? (Host.normalize domain) with
    | some fault =>
        rw [if_pos (by simp)]
        constructor
        · nofun
        · rintro ⟨rfl, -, hnone⟩
          simp [hfault] at hnone
    | none =>
        rw [if_neg (by simp [hempty])]
        constructor
        · intro h
          obtain rfl := Option.some.inj h
          exact ⟨rfl, hempty, by simp [hfault]⟩
        · rintro ⟨rfl, -, -⟩
          rfl

lemma isReady_ofDomains (domains : List String) : (ofDomains domains).isReady := rfl

/-- The index of a list holds the entries of its domains. -/
theorem contains_ofDomains_iff :
    (ofDomains domains).contains entry ↔ ∃ d ∈ domains, entry? d = some entry := by
  have hset : (ofDomains domains).contains entry = (setOf domains).contains entry := rfl
  rw [hset, setOf, Std.HashSet.contains_ofList, List.contains_iff_mem, List.mem_filterMap]

end DomainIndex

namespace Verdict

variable {σ : Type} {index : DomainIndex} {s : Safelist σ}
  {request page : String}

/-- Everything that it takes for the host of a request to be blocked. -/
lemma tracker?_eq_some_iff {blocked : String} :
    tracker? index s request page = some blocked ↔
      index.isReady ∧ Url.isWeb request ∧
        ∃ host pageHost, Url.host? request = some host ∧ Url.host? page = some pageHost ∧
          Host.normalize host ≠ "" ∧
          s.resolver.registrable (Host.normalize host) ≠
            s.resolver.registrable (Host.normalize pageHost) ∧
          ¬ s.exempts (s.resolver.registrable (Host.normalize pageHost)) ∧
          (∃ domain ∈ Host.suffixes (Host.normalize host)
              (s.resolver.registrable (Host.normalize host)), index.contains domain) ∧
            Host.normalize host = blocked := by
  unfold tracker?
  cases hhost : Url.host? request with
  | none => simp
  | some host =>
      cases hpage : Url.host? page with
      | none => simp
      | some pageHost => simp [and_assoc]

/-- Everything that it takes for a request to be blocked. -/
theorem blocks_iff :
    blocks index s request page ↔
      index.isReady ∧ Url.isWeb request ∧
        ∃ host pageHost, Url.host? request = some host ∧ Url.host? page = some pageHost ∧
          Host.normalize host ≠ "" ∧
          s.resolver.registrable (Host.normalize host) ≠
            s.resolver.registrable (Host.normalize pageHost) ∧
          ¬ s.exempts (s.resolver.registrable (Host.normalize pageHost)) ∧
          ∃ domain ∈ Host.suffixes (Host.normalize host)
              (s.resolver.registrable (Host.normalize host)), index.contains domain := by
  rw [blocks, Option.isSome_iff_exists]
  constructor
  · rintro ⟨blocked, h⟩
    obtain ⟨hready, hweb, host, pageHost, hhost, hpage, hne, hsite, hexempt, hlisted, -⟩ :=
      tracker?_eq_some_iff.mp h
    exact ⟨hready, hweb, host, pageHost, hhost, hpage, hne, hsite, hexempt, hlisted⟩
  · rintro ⟨hready, hweb, host, pageHost, hhost, hpage, hne, hsite, hexempt, hlisted⟩
    exact ⟨_, tracker?_eq_some_iff.mpr
      ⟨hready, hweb, host, pageHost, hhost, hpage, hne, hsite, hexempt, hlisted, rfl⟩⟩

end Verdict

end TrackerGuard
