import Mathlib
import TrackerGuard.Host.Basic

/-!
# Names made of labels

`Host.IsName` speaks of the labels of a host.  What proofs about URLs and filters need is what it
says of the characters: a name holds letters, digits, hyphens and full stops only, it is not empty,
and no full stop stands at one of its ends.  All of it comes from the way in which cutting at full
stops goes along with concatenation.
-/

namespace TrackerGuard.Host

-- Both go through `List.all`: for a quantifier over characters all of them would be tried.
instance (label : List Char) : Decidable (IsLabel label) :=
  decidable_of_iff (label ≠ [] ∧ label.all isLabelChar) (by simp [IsLabel])

instance (host : String) : Decidable (IsName host) :=
  decidable_of_iff ((host.toList.splitOn '.').all fun label => decide (IsLabel label))
    (by simp [IsName])

variable {host : String} {front back : List Char}

/-- Cutting a host at one of its full stops cuts its labels. -/
lemma IsName.of_toList_eq (h : IsName host) (he : host.toList = front ++ '.' :: back) :
    (∀ label ∈ front.splitOn '.', IsLabel label) ∧ ∀ label ∈ back.splitOn '.', IsLabel label := by
  rw [IsName, he, List.splitOn_append_cons_self] at h
  exact ⟨fun label hl => h label (List.mem_append_left _ hl),
    fun label hl => h label (List.mem_append_right _ hl)⟩

lemma not_isLabel_nil : ¬ IsLabel [] := fun h => h.1 rfl

lemma IsName.toList_ne_nil (h : IsName host) : host.toList ≠ [] := by
  intro he
  refine not_isLabel_nil (h [] ?_)
  simp [he]

lemma IsName.front_ne_nil (h : IsName host) (he : host.toList = front ++ '.' :: back) :
    front ≠ [] := by
  rintro rfl
  exact not_isLabel_nil ((h.of_toList_eq he).1 [] (by simp))

lemma IsName.back_ne_nil (h : IsName host) (he : host.toList = front ++ '.' :: back) :
    back ≠ [] := by
  rintro rfl
  exact not_isLabel_nil ((h.of_toList_eq he).2 [] (by simp))

/-- Every character of joined parts is a full stop or stands in one of them. -/
lemma eq_dot_or_mem_of_mem_intercalate {c : Char} {parts : List (List Char)}
    (hc : c ∈ ['.'].intercalate parts) : c = '.' ∨ ∃ part ∈ parts, c ∈ part := by
  induction parts with
  | nil => simp [List.intercalate] at hc
  | cons part parts ih =>
      cases parts with
      | nil => exact .inr ⟨part, by simp, by simpa [List.intercalate] using hc⟩
      | cons next parts =>
          have hsplit : ['.'].intercalate (part :: next :: parts) =
              part ++ '.' :: ['.'].intercalate (next :: parts) := by
            simp [List.intercalate]
          rw [hsplit, List.mem_append, List.mem_cons] at hc
          rcases hc with hc | hc | hc
          · exact .inr ⟨part, by simp, hc⟩
          · exact .inl hc
          · rcases ih hc with hdot | ⟨label, hlabel, hmem⟩
            · exact .inl hdot
            · exact .inr ⟨label, List.mem_cons_of_mem _ hlabel, hmem⟩

/-- A name holds nothing but letters, digits, hyphens and full stops. -/
lemma IsName.eq_dot_or_isLabelChar (h : IsName host) {c : Char} (hc : c ∈ host.toList) :
    c = '.' ∨ isLabelChar c := by
  have hjoined : ['.'].intercalate (host.toList.splitOn '.') = host.toList :=
    List.intercalate_splitOn '.'
  rw [← hjoined] at hc
  rcases eq_dot_or_mem_of_mem_intercalate hc with hdot | ⟨label, hlabel, hmem⟩
  · exact .inl hdot
  · exact .inr ((h label hlabel).2 c hmem)

/-- A character that is neither a full stop nor part of labels is not part of a name. -/
lemma IsName.notMem (h : IsName host) {c : Char} (hdot : c ≠ '.')
    (hlabel : isLabelChar c = false) : c ∉ host.toList := by
  intro hc
  rcases h.eq_dot_or_isLabelChar hc with hc | hc
  · exact hdot hc
  · simp [hlabel] at hc

end TrackerGuard.Host
