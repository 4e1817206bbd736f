import Mathlib
import TrackerGuard.Page.Summary
import TrackerGuard.Proofs.Page.Attribution
import TrackerGuard.Proofs.TrackerList.Entries

/-!
# What a summary accounts for

The summary of a page counts its blocked requests, and its ranking says how many of them went to
each organisation.  A ranking is determined by what was counted (`IsRanking.unique`), because no two
organisations are declared at the same place.  So it does not matter in which order the counts are
listed before they are sorted (`isRanking_of_perm`), and the order of the requests does not matter
either.
-/

namespace TrackerGuard

namespace PageSummary

variable {entities : List Entity} {ranking others : List (Entity × ℕ)}

/-! ## Rankings -/

/-- More requests come first, and among equals what is declared first. -/
def IsBefore (a b : Entity × ℕ) : Prop :=
  b.2 < a.2 ∨ a.2 = b.2 ∧ a.1.ctorIdx < b.1.ctorIdx

instance (a b : Entity × ℕ) : Decidable (IsBefore a b) :=
  inferInstanceAs (Decidable (b.2 < a.2 ∨ a.2 = b.2 ∧ a.1.ctorIdx < b.1.ctorIdx))

lemma mayPrecede_iff {a b : Entity × ℕ} : mayPrecede a b ↔ ¬ IsBefore b a := by
  rw [mayPrecede, Ordering.isLE_then_iff_or, Nat.compare_eq_lt, Nat.compare_eq_eq,
    Nat.isLE_compare, IsBefore]
  omega

/-- Each organisation once with the number of its occurrences, in order. -/
structure IsRanking (entities : List Entity) (ranking : List (Entity × ℕ)) : Prop where
  mem_iff : ∀ e n, (e, n) ∈ ranking ↔ e ∈ entities ∧ n = entities.count e
  nodup : (ranking.map Prod.fst).Nodup
  ordered : ranking.Pairwise IsBefore

lemma ctorIdx_injective : Function.Injective Entity.ctorIdx := by
  intro a b h
  rw [← Entity.ofNat_ctorIdx a, h, Entity.ofNat_ctorIdx]

/-- There is one ranking only. -/
lemma IsRanking.unique (h : IsRanking entities ranking) (hother : IsRanking entities others) :
    others = ranking := by
  have hperm : others.Perm ranking :=
    (List.perm_ext_iff_of_nodup hother.nodup.of_map h.nodup.of_map).mpr fun (e, n) => by
      rw [h.mem_iff, hother.mem_iff]
  refine hperm.eq_of_pairwise (fun a b _ _ hab hba => ?_) hother.ordered h.ordered
  simp only [IsBefore] at hab hba
  omega

/-- The counts of a ranking add up to the number of occurrences. -/
lemma IsRanking.sum_eq (h : IsRanking entities ranking) :
    (ranking.map Prod.snd).sum = entities.length := by
  have hcounts : ranking.map Prod.snd = (ranking.map Prod.fst).map fun e => entities.count e := by
    rw [List.map_map]
    refine List.map_congr_left fun (e, n) hmem => ?_
    exact ((h.mem_iff e n).mp hmem).2
  have hperm : (ranking.map Prod.fst).Perm entities.dedup := by
    refine (List.perm_ext_iff_of_nodup h.nodup entities.nodup_dedup).mpr fun e => ?_
    rw [List.mem_dedup]
    constructor
    · intro hmem
      obtain ⟨⟨e, n⟩, hentry, rfl⟩ := List.mem_map.mp hmem
      exact ((h.mem_iff e n).mp hentry).1
    · intro hmem
      exact List.mem_map.mpr ⟨(e, _), (h.mem_iff e _).mpr ⟨hmem, rfl⟩, rfl⟩
  rw [hcounts, (hperm.map _).sum_eq, List.sum_map_count_dedup_eq_length]

/-! ## Sorting -/

/-- Counts in any order, sorted by number and declaration, are the ranking. -/
lemma isRanking_mergeSort {counts : List (Entity × ℕ)} (hnodup : (counts.map Prod.fst).Nodup)
    (hmem : ∀ e n, (e, n) ∈ counts ↔ e ∈ entities ∧ n = entities.count e) :
    IsRanking entities (counts.mergeSort mayPrecede) := by
  have hperm := List.mergeSort_perm counts mayPrecede
  have hsorted : (counts.mergeSort mayPrecede).Pairwise fun a b => mayPrecede a b := by
    refine List.pairwise_mergeSort (fun a b c hab hbc => ?_) (fun a b => ?_) counts
    · simp only [mayPrecede_iff, IsBefore] at hab hbc ⊢
      omega
    · simp only [Bool.or_eq_true, mayPrecede_iff, IsBefore]
      omega
  have hdistinct : (counts.mergeSort mayPrecede).Pairwise fun a b => a.1 ≠ b.1 :=
    List.pairwise_map.mp ((hperm.map _).nodup_iff.mpr hnodup)
  refine ⟨fun e n => by rw [hperm.mem_iff, hmem], (hperm.map _).nodup_iff.mpr hnodup, ?_⟩
  refine (hsorted.and hdistinct).imp fun {a b} ⟨hab, hne⟩ => ?_
  have hplace : a.1.ctorIdx ≠ b.1.ctorIdx := fun heq => hne (ctorIdx_injective heq)
  simp only [mayPrecede_iff, IsBefore] at hab ⊢
  omega

/-! ## Counting -/

lemma getElem?_tally (entities : List Entity) (e : Entity) :
    (tally entities)[e]? = if e ∈ entities then some (entities.count e) else none := by
  induction entities using List.reverseRecOn with
  | nil => simp [tally]
  | append_singleton entities last ih =>
      rw [tally, List.foldl_concat, ← tally, Std.HashMap.getElem?_insert, ih,
        Std.HashMap.getD_eq_getD_getElem?]
      by_cases heq : last = e
      · subst heq
        rw [ih]
        by_cases hmem : last ∈ entities
        · simp [hmem]
        · simp [hmem, List.count_eq_zero_of_not_mem]
      · simp [heq, Ne.symm heq]

lemma mem_toList_tally_iff {e : Entity} {n : ℕ} :
    (e, n) ∈ (tally entities).toList ↔ e ∈ entities ∧ n = entities.count e := by
  rw [Std.HashMap.mem_toList_iff_getElem?_eq_some, getElem?_tally]
  split_ifs with hmem <;> simp [hmem, eq_comm]

lemma nodup_toList_tally (entities : List Entity) :
    ((tally entities).toList.map Prod.fst).Nodup := by
  refine List.pairwise_map.mpr (Std.HashMap.distinct_keys_toList.imp fun h => ?_)
  simpa using h

/-- In whichever order the counts are listed, the ranking is what they are sorted into. -/
lemma isRanking_of_perm {listing : List (Entity × ℕ)} (h : listing.Perm (tally entities).toList) :
    IsRanking entities (listing.mergeSort mayPrecede) :=
  isRanking_mergeSort ((h.map _).nodup_iff.mpr (nodup_toList_tally entities)) fun e n => by
    rw [h.mem_iff, mem_toList_tally_iff]

lemma isRanking_ranking (s : PageSummary) : IsRanking s.entities s.ranking :=
  isRanking_of_perm (.refl _)

end PageSummary

namespace PageRecord

open Entity Host PageSummary Resolver

variable {p p' : PageRecord} {resolver : Resolver}

lemma hostCount_summary (p : PageRecord) :
    (p.summary resolver).hostCount = p.hosts.toFinset.card := by
  have hset : p.hosts.eraseDups.toFinset = p.hosts.toFinset := by
    ext host
    simp only [List.mem_toFinset, List.mem_eraseDups]
  rw [← hset, List.toFinset_card_of_nodup (TrackerList.nodup_eraseDups p.hosts)]
  rfl

/-- The ranking depends on the requests, but not on their order. -/
lemma ranking_summary_of_perm (h : p.hosts.Perm p'.hosts) :
    (p'.summary resolver).ranking = (p.summary resolver).ranking := by
  have hentities : (p.summary resolver).entities.Perm (p'.summary resolver).entities :=
    h.filterMap _
  have hranking := isRanking_ranking (p'.summary resolver)
  refine (isRanking_ranking (p.summary resolver)).unique ⟨fun e n => ?_, hranking.nodup,
    hranking.ordered⟩
  rw [hranking.mem_iff, hentities.mem_iff, hentities.count_eq]

/-- A summary accounts for every request: their number, their distinct hosts, and the owners of
those that have one, in the order of the requests.  The ranking names each owner once, with the
number of its requests and in strict order, and so it is the same for all orders of the requests and
for all orders in which counted owners may be listed.  Without a list of suffixes, requests to names
below a domain of an organisation are attributed to it. -/
theorem summary_accounts_for_requests (resolver : Resolver) (p : PageRecord) :
    (p.summary resolver).requestCount = p.hosts.length ∧
    (p.summary resolver).hostCount = p.hosts.toFinset.card ∧
    (p.summary resolver).entities =
      p.hosts.filterMap (fun host => ofSite? (resolver.registrable host)) ∧
    (∀ site e, ofSite? site = some e ↔ site ∈ e.domains) ∧
    IsRanking (p.summary resolver).entities (p.summary resolver).ranking ∧
    ((p.summary resolver).ranking.map Prod.snd).sum = (p.summary resolver).entities.length ∧
    (∀ listing : List (Entity × ℕ), listing.Perm (tally (p.summary resolver).entities).toList →
      listing.mergeSort mayPrecede = (p.summary resolver).ranking) ∧
    (∀ p' : PageRecord, p.hosts.Perm p'.hosts →
      (p'.summary resolver).ranking = (p.summary resolver).ranking) ∧
    ∀ e, ∀ domain ∈ e.domains, ∀ host, IsName host → Within host domain →
      ofSite? (builtIn.registrable host) = some e := by
  have hranking := isRanking_ranking (p.summary resolver)
  refine ⟨rfl, p.hostCount_summary, rfl, fun _ _ => ofSite?_eq_some_iff, hranking,
    hranking.sum_eq, fun listing hlisting => ?_, fun _ => ranking_summary_of_perm,
    fun _ _ hdomain _ => ofSite?_registrable hdomain⟩
  exact hranking.unique (isRanking_of_perm hlisting)

/-- Five requests of a page, three of them to one organisation and one to an unknown site, in this
and in another order. -/
theorem summary_accounts_for_requests_of_page :
    let p : PageRecord :=
      ⟨["stats.g.doubleclick.net", "stats.g.doubleclick.net", "connect.facebook.com",
        "unknown-tracker.io", "www.google-analytics.com"]⟩
    (p.summary builtIn).requestCount = 5 ∧ (p.summary builtIn).hostCount = 4 ∧
    (p.summary builtIn).entities = [.google, .google, .facebook, .google] ∧
    (p.summary builtIn).ranking = [(.google, 3), (.facebook, 1)] ∧
    (summary builtIn ⟨p.hosts.reverse⟩).ranking = [(.google, 3), (.facebook, 1)] := by
  intro p
  obtain ⟨hrequests, hhosts, hentities, -, hranking, -, -, hperm, hbelow⟩ :=
    summary_accounts_for_requests builtIn p
  have hstats := hbelow .google "doubleclick.net" (by decide) "stats.g.doubleclick.net"
    (by decide) (.inr ⟨"stats.g".toList, rfl⟩)
  have hconnect := hbelow .facebook "facebook.com" (by decide) "connect.facebook.com"
    (by decide) (.inr ⟨"connect".toList, rfl⟩)
  have hanalytics := hbelow .google "google-analytics.com" (by decide) "www.google-analytics.com"
    (by decide) (.inr ⟨"www".toList, rfl⟩)
  have hunknown : ofSite? (builtIn.registrable "unknown-tracker.io") = none := by
    decide +kernel
  have howners : (p.summary builtIn).entities = [.google, .google, .facebook, .google] := by
    simp only [hentities, p, List.filterMap_cons, hstats, hconnect, hunknown, hanalytics,
      List.filterMap_nil]
  rw [howners] at hranking
  have hcounts : (p.summary builtIn).ranking = [(.google, 3), (.facebook, 1)] := by
    refine (hranking.unique ⟨fun e n => ?_, by decide, by decide⟩).symm
    cases e <;> simp
  exact ⟨hrequests, hhosts.trans (by decide), howners, hcounts,
    (hperm ⟨p.hosts.reverse⟩ (List.reverse_perm _).symm).trans hcounts⟩

end PageRecord

end TrackerGuard
