import Mathlib
import TrackerGuard.Proofs.Host.Normal
import TrackerGuard.Proofs.TrackerList.Entries
import TrackerGuard.Proofs.Verdict.Index
import TrackerGuard.RuleList

/-!
# The index and the compiler take the same domains

The compiler puts the domains of a list into filters as they are, and skips those that cannot be put
there.  The index brings each domain to its normal form first.  For a loaded list this changes
nothing unless a domain has a blank at an end: it has no full stop there and no capital letter
(`entry?_of_plainEnds`).

A domain does have a blank at an end when its entry had one behind a leading full stop or before a
final one.  The compiler takes such a domain with the blank, the index without, and they disagree
unless other entries of the list make up for it: `holdsAccepted_ofText_iff`.
-/

namespace TrackerGuard

open Text

namespace RuleList

/-- The compiler counts the domains that can be put into a filter. -/
lemma domains_tally_compile (resolver : Resolver) (domains safelist : List String)
    (features : Features) :
    (compile resolver domains safelist features).tally.domains =
      (domains.filter Filter.accepts).length := by
  simp [compile, assemble]

end RuleList

namespace DomainIndex

variable {domains : List String} {domain entry : String}

/-- The index of a list counts each of its entries once. -/
theorem size_ofDomains (domains : List String) :
    (ofDomains domains).size = (domains.filterMap entry?).eraseDups.length := by
  have hdistinct : (setOf domains).toList.Nodup :=
    (Std.HashSet.distinct_toList (m := setOf domains)).imp fun h => by simpa using h
  have hperm : (setOf domains).toList.Perm (domains.filterMap entry?).eraseDups := by
    rw [List.perm_ext_iff_of_nodup hdistinct (TrackerList.nodup_eraseDups _)]
    intro e
    rw [Std.HashSet.mem_toList, List.mem_eraseDups, setOf, Std.HashSet.mem_ofList,
      List.contains_iff_mem]
  rw [← hperm.length_eq, Std.HashSet.length_toList]
  rfl

/-- The index of a list holds just those of its domains that the compiler puts into filters. -/
def HoldsAccepted (domains : List String) : Prop :=
  ∀ d, (ofDomains domains).contains d ↔ d ∈ domains ∧ Filter.accepts d

/-- An index that holds the domains of the compiler holds as many as the compiler counts. -/
theorem HoldsAccepted.size_eq (h : HoldsAccepted domains) (hnodup : domains.Nodup)
    (resolver : Resolver) (safelist : List String) (features : Features) :
    (ofDomains domains).size =
      (RuleList.compile resolver domains safelist features).tally.domains := by
  have hperm : (domains.filterMap entry?).eraseDups.Perm (domains.filter Filter.accepts) := by
    rw [List.perm_ext_iff_of_nodup (TrackerList.nodup_eraseDups _) (hnodup.filter _)]
    intro d
    rw [List.mem_eraseDups, List.mem_filterMap, List.mem_filter, ← h d, contains_ofDomains_iff]
  rw [size_ofDomains, RuleList.domains_tally_compile, hperm.length_eq]

/-- A loaded domain without a blank at its ends is indexed as it is, if it can be put into a
filter. -/
lemma entry?_of_plainEnds (hentry : TrackerList.IsEntry domain)
    (hplain : HasPlainEnds isBlank domain.toList) :
    entry? domain = some entry ↔ domain = entry ∧ Filter.accepts domain := by
  have hnormal : Host.normalize domain = domain :=
    Host.normalize_eq_self_iff.mpr ⟨hplain, hentry.plainEnds, hentry.isLower⟩
  rw [entry?_eq_some_iff, hnormal]
  constructor
  · rintro ⟨rfl, -, haccepts⟩
    exact ⟨rfl, haccepts⟩
  · rintro ⟨rfl, haccepts⟩
    exact ⟨rfl, hentry.ne_empty, haccepts⟩

end DomainIndex

namespace TrackerList

open DomainIndex

variable {text : String} {domains : List String}

/-- **Agreement on a loaded list.**  The index and the compiler take the same domains exactly when
every domain with a blank at an end is the normal form of another one, if the compiler takes it, and
has its own normal form in the list, if the index takes that.  The index is then as large as the
compiler counts. -/
theorem holdsAccepted_ofText_iff (h : ofText text = .ok domains) :
    (HoldsAccepted domains ↔
      ∀ d ∈ domains, ¬ HasPlainEnds isBlank d.toList →
        (Filter.accepts d → ∃ other ∈ domains, entry? other = some d) ∧
          ∀ e, entry? d = some e → e ∈ domains) ∧
      (HoldsAccepted domains → ∀ resolver safelist features,
        (ofDomains domains).size =
          (RuleList.compile resolver domains safelist features).tally.domains) := by
  refine ⟨⟨?taken, ?agree⟩, fun hagree => hagree.size_eq (nodup_ofText h)⟩
  case taken =>
    intro hagree d hd hblank
    constructor
    · intro haccepts
      exact contains_ofDomains_iff.mp ((hagree d).mpr ⟨hd, haccepts⟩)
    · intro e he
      exact ((hagree e).mp (contains_ofDomains_iff.mpr ⟨d, hd, he⟩)).1
  case agree =>
    intro hblanks e
    rw [contains_ofDomains_iff]
    constructor
    · rintro ⟨d, hd, he⟩
      by_cases hplain : HasPlainEnds isBlank d.toList
      · obtain ⟨rfl, haccepts⟩ :=
          (entry?_of_plainEnds (isEntry_of_mem_ofText h hd) hplain).mp he
        exact ⟨hd, haccepts⟩
      · exact ⟨(hblanks d hd hplain).2 e he, (entry?_eq_some_iff.mp he).2.2⟩
    · rintro ⟨he, haccepts⟩
      by_cases hplain : HasPlainEnds isBlank e.toList
      · exact ⟨e, he, (entry?_of_plainEnds (isEntry_of_mem_ofText h he) hplain).mpr
          ⟨rfl, haccepts⟩⟩
      · exact (hblanks e he hplain).1 haccepts

/-- A list with capital letters, blanks and full stops around a domain, a domain that cannot be put
into a filter, an item that is no text and a repeat. -/
lemma ofText_mixed :
    ofText "[\" Ads.Example.COM. \",\"x|y\",42,\"ads.example.com\"]" =
      .ok ["ads.example.com", "x|y"] := by
  have hread : Json.read "[\" Ads.Example.COM. \",\"x|y\",42,\"ads.example.com\"]" =
      .ok (.list [.text " Ads.Example.COM. ", .text "x|y", .int 42, .text "ads.example.com"]) := by
    cbv
  refine ofText_eq_ok_iff.mpr ⟨_, hread, ?_⟩
  rw [ofItems, firstOccurrences_eq_eraseDups]
  decide

/-- No domain of the list has a blank at an end, so the index and the compiler agree on it. -/
theorem holdsAccepted_mixed :
    ofText "[\" Ads.Example.COM. \",\"x|y\",42,\"ads.example.com\"]" =
        .ok ["ads.example.com", "x|y"] ∧
      HoldsAccepted ["ads.example.com", "x|y"] ∧
      (ofDomains ["ads.example.com", "x|y"]).size =
        (RuleList.compile .builtIn ["ads.example.com", "x|y"] [] {}).tally.domains := by
  obtain ⟨hiff, hsize⟩ := holdsAccepted_ofText_iff ofText_mixed
  have hplain : ∀ d ∈ ["ads.example.com", "x|y"], HasPlainEnds isBlank d.toList := by
    decide
  have hagree : HoldsAccepted ["ads.example.com", "x|y"] :=
    hiff.mpr fun d hd hblank => absurd (hplain d hd) hblank
  exact ⟨ofText_mixed, hagree, hsize hagree .builtIn [] {}⟩

/-- A blank behind a leading full stop keeps a domain apart from the same one without when the list
is loaded, and in the compiler, but not in the index. -/
theorem not_holdsAccepted_blank_behind_dot :
    ofText "[\". a.com\",\"a.com\"]" = .ok [" a.com", "a.com"] ∧
      ¬ HoldsAccepted [" a.com", "a.com"] ∧
      (ofDomains [" a.com", "a.com"]).size = 1 ∧
      (RuleList.compile .builtIn [" a.com", "a.com"] [] {}).tally.domains = 2 := by
  have hread : Json.read "[\". a.com\",\"a.com\"]" =
      .ok (.list [.text ". a.com", .text "a.com"]) := by
    cbv
  refine ⟨ofText_eq_ok_iff.mpr ⟨_, hread, ?_⟩, ?_, ?_, ?_⟩
  · rw [ofItems, firstOccurrences_eq_eraseDups]
    decide
  · intro hagree
    have hindexed := (hagree " a.com").mpr ⟨by decide, by decide⟩
    rw [contains_ofDomains_iff] at hindexed
    exact absurd hindexed (by decide)
  · rw [size_ofDomains]
    decide
  · rw [RuleList.domains_tally_compile]
    decide

end TrackerList

end TrackerGuard
