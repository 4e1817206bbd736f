import Mathlib
import TrackerGuard.Proofs.TrackerList.Entries

/-!
# The order of a loaded tracker list

The order of a list decides which domains are blocked when there are too many of them, so loading
keeps it.  The domains of a list are the normal forms of its items, each where it occurs first.
`AreFirst` says this without the set that loading carries along, and there is only one such list
(`AreFirst.unique`).

Items that have no normal form, and items with the normal form of an earlier one, can be put into
the list without changing what is loaded (`ofItems_eq_of_addsIdle`).
-/

namespace TrackerGuard.TrackerList

open Text

variable {entry domain : String} {items items' : List Json}

/-! ## Normal forms -/

/-- An entry is its normal form up to blanks around it, full stops within these, and capital
letters. -/
def IsNormalForm (entry domain : String) : Prop :=
  ∃ dotted core, Surrounds isBlank dotted entry.toList ∧ Surrounds (· == '.') core dotted ∧
    core ≠ [] ∧ domain.toList = toLower core

lemma normalForm?_eq_some_iff : normalForm? entry = some domain ↔ IsNormalForm entry domain := by
  simp only [IsNormalForm, ← strip_eq_iff]
  by_cases hempty : stripDots (trim entry.toList) = []
  · have hnone : normalForm? entry = none := by simp [normalForm?, hempty]
    rw [hnone]
    constructor
    · exact nofun
    · rintro ⟨_, _, rfl, rfl, hcore, -⟩
      exact absurd hempty hcore
  · have hsome : normalForm? entry =
        some (String.ofList (toLower (stripDots (trim entry.toList)))) := by
      simp [normalForm?, hempty]
    rw [hsome, Option.some_inj]
    constructor
    · rintro rfl
      exact ⟨_, _, rfl, rfl, hempty, String.toList_ofList⟩
    · rintro ⟨_, _, rfl, rfl, -, hdomain⟩
      rw [← String.toList_inj, hdomain, String.toList_ofList]
      rfl

/-- The normal form of an item, if it is a text that has one. -/
def form? (item : Json) : Option String := item.text?.bind normalForm?

lemma ofItems_eq (items : List Json) : ofItems items = (items.filterMap form?).eraseDups := by
  rw [ofItems, firstOccurrences_eq_eraseDups, List.filterMap_filterMap]
  rfl

/-! ## First occurrences -/

/-- `domains` are the different ones of `forms` in the order in which they occur first. -/
structure AreFirst (forms domains : List String) : Prop where
  nodup : domains.Nodup
  mem_iff : ∀ d, d ∈ domains ↔ d ∈ forms
  inOrder : domains.Pairwise fun d e => forms.idxOf d < forms.idxOf e

lemma eraseDups_concat (forms : List String) (d : String) :
    (forms ++ [d]).eraseDups = if d ∈ forms then forms.eraseDups else forms.eraseDups ++ [d] := by
  rw [List.eraseDups_append, List.cons_removeAll]
  split_ifs <;> simp_all [List.removeAll, List.eraseDups_cons]

lemma areFirst_eraseDups (forms : List String) : AreFirst forms forms.eraseDups := by
  refine ⟨nodup_eraseDups forms, fun d => List.mem_eraseDups, ?_⟩
  induction forms using List.reverseRecOn with
  | nil => exact List.Pairwise.nil
  | append_singleton forms d ih =>
      have hkept : forms.eraseDups.Pairwise fun a b =>
          (forms ++ [d]).idxOf a < (forms ++ [d]).idxOf b := by
        refine ih.imp_of_mem fun ha hb hab => ?_
        rwa [List.idxOf_append_of_mem (List.mem_eraseDups.mp ha),
          List.idxOf_append_of_mem (List.mem_eraseDups.mp hb)]
      rw [eraseDups_concat]
      split_ifs with hd
      · exact hkept
      · refine List.pairwise_append.mpr ⟨hkept, List.pairwise_singleton _ _, ?_⟩
        intro a ha b hb
        rw [List.mem_singleton.mp hb, List.idxOf_append_of_mem (List.mem_eraseDups.mp ha),
          List.idxOf_append_of_notMem hd]
        have hlt := List.idxOf_lt_length_iff.mpr (List.mem_eraseDups.mp ha)
        omega

/-- There is one list of first occurrences only. -/
lemma AreFirst.unique {forms domains others : List String} (h : AreFirst forms domains)
    (hother : AreFirst forms others) : others = domains := by
  have hperm : others.Perm domains :=
    (List.perm_ext_iff_of_nodup hother.nodup h.nodup).mpr fun d => by
      rw [h.mem_iff, hother.mem_iff]
  refine hperm.eq_of_pairwise (fun d e _ _ hde hed => ?_) hother.inOrder h.inOrder
  omega

/-! ## Items that do not count -/

/-- The second list has one item more, which has no normal form or that of an earlier one. -/
inductive AddsIdle : List Json → List Json → Prop
  | formless (front back : List Json) (item : Json) (hform : form? item = none) :
    AddsIdle (front ++ back) (front ++ item :: back)
  | repeated (front back : List Json) (item earlier : Json) (hmem : earlier ∈ front)
    (hform : form? item = form? earlier) : AddsIdle (front ++ back) (front ++ item :: back)

lemma eraseDups_insert_repeated {front : List String} {d : String} (hd : d ∈ front)
    (back : List String) : (front ++ d :: back).eraseDups = (front ++ back).eraseDups := by
  rw [List.eraseDups_append, List.eraseDups_append, List.cons_removeAll, if_neg (by simpa using hd)]

lemma ofItems_eq_of_addsIdle (h : AddsIdle items items') : ofItems items' = ofItems items := by
  rw [ofItems_eq, ofItems_eq]
  cases h with
  | formless front back item hform =>
      rw [List.filterMap_append, List.filterMap_append, List.filterMap_cons_none hform]
  | repeated front back item earlier hmem hform =>
      cases hd : form? earlier with
      | none =>
          rw [List.filterMap_append, List.filterMap_append,
            List.filterMap_cons_none (hform.trans hd)]
      | some d =>
          have hd' : d ∈ front.filterMap form? := List.mem_filterMap.mpr ⟨earlier, hmem, hd⟩
          rw [List.filterMap_append, List.filterMap_append,
            List.filterMap_cons_some (hform.trans hd), eraseDups_insert_repeated hd']

/-- Items that do not count change nothing, however many there are. -/
lemma ofItems_eq_of_adds (h : Relation.ReflTransGen AddsIdle items items') :
    ofItems items' = ofItems items := by
  induction h with
  | refl => rfl
  | tail _ hadd ih => exact (ofItems_eq_of_addsIdle hadd).trans ih

lemma form?_eq_some_iff {item : Json} :
    form? item = some domain ↔ ∃ entry, item = .text entry ∧ IsNormalForm entry domain := by
  cases item <;> simp [form?, Json.text?, normalForm?_eq_some_iff]

/-- **Loading keeps first occurrences in their order.**  Of a JSON list the normal forms of its
texts are loaded, without repeats and in the order in which they occur first; items that have no
normal form, and items with the normal form of an earlier one, may be added to the list.  Of JSON
that is no list nothing is loaded. -/
theorem ofText_keeps_first_occurrences (text : String) :
    (∀ items, Json.read text = .ok (.list items) →
      ∃ domains, ofText text = .ok domains ∧
        (∀ others, AreFirst (items.filterMap form?) others ↔ others = domains) ∧
        (∀ d, d ∈ domains ↔ ∃ entry, .text entry ∈ items ∧ IsNormalForm entry d) ∧
        ∀ items' text', Relation.ReflTransGen AddsIdle items items' →
          Json.read text' = .ok (.list items') → ofText text' = .ok domains) ∧
      ∀ v, Json.read text = .ok v → (∀ items, v ≠ .list items) →
        ofText text = .error .notAList := by
  constructor
  · intro items hread
    refine ⟨ofItems items, ofText_eq_ok_iff.mpr ⟨items, hread, rfl⟩, fun others => ?_, fun d => ?_,
      fun items' text' hadds hread' =>
        ofText_eq_ok_iff.mpr ⟨items', hread', ofItems_eq_of_adds hadds⟩⟩
    · have hfirst := areFirst_eraseDups (items.filterMap form?)
      rw [← ofItems_eq] at hfirst
      exact ⟨hfirst.unique, fun heq => heq ▸ hfirst⟩
    · rw [ofItems_eq, List.mem_eraseDups, List.mem_filterMap]
      simp only [form?_eq_some_iff]
      constructor
      · rintro ⟨_, hmem, entry, rfl, hform⟩
        exact ⟨entry, hmem, hform⟩
      · rintro ⟨entry, hmem, hform⟩
        exact ⟨_, hmem, entry, rfl, hform⟩
  · intro v hread hlist
    cases v with
    | list items => exact absurd rfl (hlist items)
    | _ => simp only [ofText, hread, ofJson]

/-- A list of two domains, the same with a number and a repeat in it, and an object. -/
theorem ofText_keeps_first_occurrences_when_repeated :
    ofText "[\" Ads.Example.COM. \",\"x.io\"]" = .ok ["ads.example.com", "x.io"] ∧
      ofText "[\" Ads.Example.COM. \",42,\"x.io\",\"..ADS.example.com\"]" =
        .ok ["ads.example.com", "x.io"] ∧
      ofText "{}" = .error .notAList := by
  have hread : Json.read "[\" Ads.Example.COM. \",\"x.io\"]" =
      .ok (.list [.text " Ads.Example.COM. ", .text "x.io"]) := by
    cbv
  have hread' : Json.read "[\" Ads.Example.COM. \",42,\"x.io\",\"..ADS.example.com\"]" =
      .ok (.list
        [.text " Ads.Example.COM. ", .int 42, .text "x.io", .text "..ADS.example.com"]) := by
    cbv
  have hnumber : AddsIdle [.text " Ads.Example.COM. ", .text "x.io"]
      [.text " Ads.Example.COM. ", .int 42, .text "x.io"] :=
    .formless [_] [_] _ rfl
  have hrepeat : AddsIdle [.text " Ads.Example.COM. ", .int 42, .text "x.io"]
      [.text " Ads.Example.COM. ", .int 42, .text "x.io", .text "..ADS.example.com"] :=
    .repeated [_, _, _] [] _ (.text " Ads.Example.COM. ") List.mem_cons_self (by decide)
  obtain ⟨domains, hdomains, hfirst, -, hadds⟩ := (ofText_keeps_first_occurrences _).1 _ hread
  have hforms : [Json.text " Ads.Example.COM. ", .text "x.io"].filterMap form? =
      ["ads.example.com", "x.io"] := by
    decide
  obtain rfl : ["ads.example.com", "x.io"] = domains := by
    refine (hfirst _).mp ?_
    rw [hforms]
    exact ⟨by decide, fun _ => Iff.rfl, by decide⟩
  have hobject : Json.read "{}" = .ok (.object []) := by cbv
  have hnone : ofText "{}" = .error .notAList := by
    refine (ofText_keeps_first_occurrences _).2 _ hobject fun items heq => ?_
    cases heq
  exact ⟨hdomains, hadds _ _ (.tail (.single hnumber) hrepeat) hread', hnone⟩

end TrackerGuard.TrackerList
