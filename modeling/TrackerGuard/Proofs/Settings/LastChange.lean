import Mathlib
import TrackerGuard.Proofs.Settings.WriteThrough

/-!
# The last change for a site

A change counts for its own site only, and only if the store took it.  One that finds nothing to do
does not fail, and it decides as well: it finds the site as it would have left it.  So whether a
site is exempted is decided by the last change for a host of this site that did not fail, or by what
was loaded if there was none (`IsProper.exempts_run`).

Of the store nothing is assumed.  It may refuse a change at any time, and what it keeps of the
changes it takes is not asked here, for the sites are in memory.
-/

namespace TrackerGuard

namespace Safelist

variable {σ : Type} {s : Safelist σ} {c : Change} {site other : String}

/-! ## One change -/

/-- Whether a change allows trackers. -/
def Change.isAllow : Change → Bool
  | .allow _ => true
  | .disallow _ => false

lemma exempts_iff : s.exempts site ↔ site ∈ s.sites := by
  rw [exempts, List.contains_iff_mem]

/-- A change is due when its site is not yet as the change leaves it. -/
lemma Change.isDue_iff (hne : site ≠ "") :
    c.IsDue site s.sites ↔ s.exempts site ≠ c.isAllow := by
  cases c with
  | allow host => simp [IsDue, isAllow, exempts, hne]
  | disallow host => simp [IsDue, isAllow, exempts]

/-- A change that is due and made leaves its site as it says, and the others as they were. -/
lemma IsProper.exempts_make (h : s.IsProper) (hdue : c.IsDue site s.sites) {store : σ}
    (hne : other ≠ "") :
    ({ s with store := store, sites := c.make site s.sites } : Safelist σ).exempts other =
      if site = other then c.isAllow else s.exempts other := by
  rw [Bool.eq_iff_iff, exempts_iff, Change.mem_make_iff h.ascending hdue]
  by_cases heq : site = other
  · subst heq
    have hchanged : c.isAllow = !s.exempts site :=
      Bool.eq_not.mpr ((Change.isDue_iff hne).mp hdue).symm
    rw [if_pos rfl, if_pos rfl, ← exempts_iff, hchanged]
    simp
  · rw [if_neg (Ne.symm heq), if_neg heq, exempts_iff]

variable [SettingsStore σ]

/-- A change that does not fail decides about its own site, and about no other.  A change that fails
decides about none. -/
lemma IsProper.exempts_ask (h : s.IsProper) (hsite : s.resolver.registrable c.host = site)
    (hne : other ≠ "") :
    (s.ask c).2.exempts other =
      if site = other ∧ (s.ask c).1.isOk then c.isAllow else s.exempts other := by
  rcases ask_cases hsite with ⟨hdue, hask⟩ | ⟨hdue, store, ⟨-, hask⟩ | ⟨e, -, hask⟩⟩
  · rw [hask]
    by_cases heq : site = other
    · subst heq
      have hsame : s.exempts site = c.isAllow := by
        by_contra hchanged
        exact hdue ((Change.isDue_iff hne).mpr hchanged)
      simp [Except.isOk, Except.toBool, hsame]
    · simp [heq]
  · rw [hask, h.exempts_make hdue hne]
    simp [Except.isOk, Except.toBool]
  · rw [hask, Change.undo_make h.ascending hdue]
    simp [Except.isOk, Except.toBool, exempts]

/-! ## Many changes -/

/-- The changes with what each of them was answered. -/
def outcomes (s : Safelist σ) : List Change → List (Change × Except StoreError Bool)
  | [] => []
  | c :: changes => (c, (s.ask c).1) :: outcomes (s.change c) changes

/-- The last change for the hosts of a site that did not fail, if there was one. -/
def lastDone? (resolver : Resolver) (site : String)
    (outcomes : List (Change × Except StoreError Bool)) : Option Change :=
  (outcomes.filter fun o => resolver.registrable o.1.host = site ∧ o.2.isOk).getLast?.map (·.1)

/-- The last change is looked for from behind: the first one counts if there is none after it. -/
lemma lastDone?_cons (resolver : Resolver) (site : String) (c : Change)
    (answer : Except StoreError Bool) (outcomes : List (Change × Except StoreError Bool)) :
    lastDone? resolver site ((c, answer) :: outcomes) =
      (lastDone? resolver site outcomes).or
        (if resolver.registrable c.host = site ∧ answer.isOk then some c else none) := by
  rw [lastDone?, lastDone?, List.filter_cons]
  by_cases hdone : resolver.registrable c.host = site ∧ answer.isOk
  · rw [if_pos (by simpa using hdone), if_pos hdone, List.getLast?_cons]
    cases (List.filter _ outcomes).getLast? <;> rfl
  · rw [if_neg (by simpa using hdone), if_neg hdone, Option.or_none]

/-- A site is exempted as the last change for it that did not fail says, or as it was before. -/
theorem IsProper.exempts_run (h : s.IsProper) (hne : site ≠ "") (changes : List Change) :
    (s.run changes).exempts site =
      ((lastDone? s.resolver site (s.outcomes changes)).map Change.isAllow).getD
        (s.exempts site) := by
  induction changes generalizing s with
  | nil => rfl
  | cons c changes ih =>
      have hstep := h.exempts_ask (c := c) rfl hne
      rw [← change_eq_ask] at hstep
      rw [run, List.foldl_cons, ← run, ih (h.change c), outcomes, lastDone?_cons, resolver_change,
        hstep]
      cases lastDone? s.resolver site ((s.change c).outcomes changes) with
      | some last => rw [Option.some_or, Option.map_some, Option.getD_some, Option.getD_some]
      | none => split_ifs <;> simp

end Safelist

end TrackerGuard
