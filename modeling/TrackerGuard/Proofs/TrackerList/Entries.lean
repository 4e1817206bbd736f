import Mathlib
import TrackerGuard.Proofs.Text.Lowercase
import TrackerGuard.TrackerList

/-!
# What a loaded tracker list holds

Loading keeps of the items of a list the normal forms of its texts, each once and in the order of
the list (`firstOccurrences_eq_eraseDups`).  A normal form is not empty, has no full stop at its
ends and no capital letter of ASCII.  It may have a blank at an end: blanks are taken off first, so
one that stands behind a leading full stop, or before a final one, is left.
-/

namespace TrackerGuard.TrackerList

open Text

/-! ## Repeats -/

variable {texts : List String} {text : String}

/-- The first occurrences of texts, with those that were seen before left out. -/
lemma firstOccurrencesFrom_eq (seen : Std.HashSet String) (out texts : List String) :
    firstOccurrencesFrom seen out texts =
      out.reverse ++ (texts.filter (!seen.contains ·)).eraseDups := by
  -- The set grows by the text that is kept, and what is filtered with it shrinks by its repeats.
  induction texts generalizing seen out with
  | nil => simp [firstOccurrencesFrom]
  | cons s texts ih =>
      by_cases hseen : seen.contains s
      · rw [firstOccurrencesFrom, if_pos hseen, ih, List.filter_cons_of_neg (by simp [hseen])]
      · rw [firstOccurrencesFrom, if_neg hseen, ih, List.filter_cons_of_pos (by simp [hseen]),
          List.eraseDups_cons, List.filter_filter]
        have hinsert : ∀ t, (!(seen.insert s).contains t) = (!t == s && !seen.contains t) := by
          intro t
          rw [Std.HashSet.contains_insert, Bool.not_or, Bool.beq_comm]
        simp only [hinsert, List.reverse_cons, List.append_assoc, List.singleton_append]

theorem firstOccurrences_eq_eraseDups (texts : List String) :
    firstOccurrences texts = texts.eraseDups := by
  rw [firstOccurrences, firstOccurrencesFrom_eq]
  simp

lemma nodup_eraseDups (texts : List String) : texts.eraseDups.Nodup := by
  cases texts with
  | nil => simp
  | cons s texts =>
      rw [List.eraseDups_cons, List.nodup_cons]
      constructor
      · rw [List.mem_eraseDups]
        simp
      · exact nodup_eraseDups (texts.filter (!· == s))
termination_by texts.length
decreasing_by exact Nat.lt_succ_of_le (List.length_filter_le _ _)

/-! ## Normal forms -/

/-- What the normal form of an entry is known to be. -/
structure IsEntry (domain : String) : Prop where
  ne_empty : domain ≠ ""
  plainEnds : HasPlainEnds (· == '.') domain.toList
  isLower : IsLower domain.toList

lemma isEntry_of_normalForm? {entry domain : String} (h : normalForm? entry = some domain) :
    IsEntry domain := by
  unfold normalForm? at h
  by_cases hempty : (stripDots (trim entry.toList)).isEmpty
  · rw [if_pos hempty] at h
    exact nomatch h
  · rw [if_neg hempty] at h
    obtain rfl := Option.some.inj h
    have hne : stripDots (trim entry.toList) ≠ [] := by simpa using hempty
    have hends := hasPlainEnds_strip (· == '.') (trim entry.toList)
    refine ⟨?_, ?_, ?_⟩
    · have hlowered := toLower_ne_nil hne
      simpa [← String.toList_inj] using hlowered
    · rw [String.toList_ofList]
      exact hasPlainEnds_toLower hends
    · rw [String.toList_ofList]
      exact isLower_toLower _

/-! ## Lists -/

variable {items : List Json} {domains : List String} {domain : String}

lemma ofText_eq_ok_iff :
    ofText text = .ok domains ↔
      ∃ items, Json.read text = .ok (.list items) ∧ ofItems items = domains := by
  unfold ofText ofJson
  constructor
  · intro h
    split at h
    · next v hread =>
        split at h
        · next items =>
            cases h
            exact ⟨items, hread, rfl⟩
        · exact nomatch h
    · exact nomatch h
  · rintro ⟨items, hread, rfl⟩
    rw [hread]

lemma nodup_ofItems (items : List Json) : (ofItems items).Nodup := by
  rw [ofItems, firstOccurrences_eq_eraseDups]
  exact nodup_eraseDups _

lemma isEntry_of_mem_ofItems (h : domain ∈ ofItems items) : IsEntry domain := by
  rw [ofItems, firstOccurrences_eq_eraseDups, List.mem_eraseDups] at h
  obtain ⟨entry, -, hentry⟩ := List.mem_filterMap.mp h
  exact isEntry_of_normalForm? hentry

/-- No domain is loaded twice. -/
theorem nodup_ofText (h : ofText text = .ok domains) : domains.Nodup := by
  obtain ⟨items, -, rfl⟩ := ofText_eq_ok_iff.mp h
  exact nodup_ofItems items

/-- What is loaded are normal forms of entries. -/
theorem isEntry_of_mem_ofText (h : ofText text = .ok domains) (hdomain : domain ∈ domains) :
    IsEntry domain := by
  obtain ⟨items, -, rfl⟩ := ofText_eq_ok_iff.mp h
  exact isEntry_of_mem_ofItems hdomain

end TrackerGuard.TrackerList
