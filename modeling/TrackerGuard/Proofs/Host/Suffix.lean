import Mathlib
import TrackerGuard.Proofs.Host.Name
import TrackerGuard.Proofs.Text.Ends

/-!
# Hosts and the domains above them

`Host.Within` says that a domain stands at the end of a host, behind a full stop.  In terms of
labels this is the suffix relation of lists (`within_iff_labels_suffix`), whatever the host is made
of: cutting at full stops and joining with them are inverse to each other.  So the domains above a
host are totally ordered, and of two of them the longer one lies under the shorter one, where
length may as well be counted in bytes (`Within.iff_utf8Length_le`).

A domain above a name is a name.
-/

namespace TrackerGuard.Host

/-! ## Labels -/

lemma intercalate_append {front back : List (List Char)} (hfront : front ≠ []) (hback : back ≠ []) :
    ['.'].intercalate (front ++ back) =
      ['.'].intercalate front ++ '.' :: ['.'].intercalate back := by
  have hcons {label : List Char} {ls : List (List Char)} (hls : ls ≠ []) :
      ['.'].intercalate (label :: ls) = label ++ '.' :: ['.'].intercalate ls := by
    obtain ⟨next, ls, rfl⟩ := List.exists_cons_of_ne_nil hls
    simp [List.intercalate]
  induction front with
  | nil => exact absurd rfl hfront
  | cons label front ih =>
      by_cases hnil : front = []
      · subst hnil
        rw [List.singleton_append, hcons hback]
        simp [List.intercalate]
      · have hrest : front ++ back ≠ [] := by simp [hnil]
        rw [List.cons_append, hcons hrest, ih hnil, hcons hnil]
        simp

/-- There is no full stop in a label. -/
lemma dot_notMem_of_mem_splitOn {cs label : List Char} (h : label ∈ cs.splitOn '.') :
    '.' ∉ label := by
  induction cs generalizing label with
  | nil =>
      obtain rfl : label = [] := by simpa using h
      exact List.not_mem_nil
  | cons c cs ih =>
      obtain ⟨first, rest, hsplit⟩ := List.exists_cons_of_ne_nil (List.splitOn_ne_nil '.' cs)
      rw [hsplit] at ih
      rw [List.splitOn_cons_eq_if_modifyHead, hsplit] at h
      by_cases hc : c = '.'
      · rw [if_pos (by simp [hc]), List.mem_cons] at h
        rcases h with rfl | h
        · exact List.not_mem_nil
        · exact ih h
      · rw [if_neg (by simp [hc]), List.modifyHead_cons, List.mem_cons] at h
        rcases h with rfl | h
        · have hfirst : '.' ∉ first := ih List.mem_cons_self
          simp [hfirst, Ne.symm hc]
        · exact ih (List.mem_cons_of_mem _ h)

lemma labels_ne_nil (host : String) : labels host ≠ [] := by
  simp [labels]

/-- The labels of a host make it up again. -/
lemma ofLabels_labels (host : String) : ofLabels (labels host) = host := by
  apply String.toList_inj.mp
  rw [ofLabels, String.toList_intercalate, labels, List.map_map]
  have hid : String.toList ∘ String.ofList = id := by
    funext cs
    simp
  rw [hid, List.map_id]
  exact List.intercalate_splitOn '.'

/-- Labels without full stops are the labels of what they make up. -/
lemma labels_ofLabels {ls : List String} (hne : ls ≠ []) (hdot : ∀ label ∈ ls, '.' ∉ label.toList) :
    labels (ofLabels ls) = ls := by
  have hsplit : (ofLabels ls).toList.splitOn '.' = ls.map String.toList := by
    rw [ofLabels, String.toList_intercalate]
    exact List.splitOn_intercalate '.' (by simpa using hdot) (by simpa using hne)
  rw [labels, hsplit, List.map_map]
  simp [Function.comp_def]

lemma dot_notMem_of_mem_labels {host label : String} (h : label ∈ labels host) :
    '.' ∉ label.toList := by
  obtain ⟨part, hpart, rfl⟩ := List.mem_map.mp h
  rw [String.toList_ofList]
  exact dot_notMem_of_mem_splitOn hpart

/-- Some of the last labels of a host are the labels of what they make up. -/
lemma labels_ofLabels_of_suffix {host : String} {ls : List String} (hne : ls ≠ [])
    (h : ls <:+ labels host) : labels (ofLabels ls) = ls :=
  labels_ofLabels hne fun _ hlabel => dot_notMem_of_mem_labels (h.subset hlabel)

variable {host domain other : String}

/-- A domain lies above a host when its labels are the last ones of the host. -/
theorem within_iff_labels_suffix : Within host domain ↔ labels domain <:+ labels host := by
  constructor
  · rintro (rfl | ⟨front, hfront⟩)
    · exact List.suffix_rfl
    · rw [labels, labels, hfront, List.splitOn_append_cons_self, List.map_append]
      exact List.suffix_append _ _
  · rintro ⟨front, hfront⟩
    have hhost : host = ofLabels (front ++ labels domain) := by
      rw [hfront, ofLabels_labels]
    by_cases hnil : front = []
    · left
      rw [hhost, hnil, List.nil_append, ofLabels_labels]
    · right
      refine ⟨(ofLabels front).toList, ?_⟩
      have hdomain : domain.toList = ['.'].intercalate ((labels domain).map String.toList) := by
        conv_lhs => rw [← ofLabels_labels domain, ofLabels, String.toList_intercalate]
        rfl
      rw [hdomain, hhost, ofLabels, ofLabels, String.toList_intercalate,
        String.toList_intercalate, List.map_append]
      exact intercalate_append (by simpa using hnil) (by simpa using labels_ne_nil domain)

/-! ## The order of domains -/

@[refl] lemma Within.refl (host : String) : Within host host := .inl rfl

lemma Within.trans (h : Within host domain) (h' : Within domain other) : Within host other := by
  rw [within_iff_labels_suffix] at *
  exact h'.trans h

/-- What lies under a domain is no shorter, and longer unless it is the domain. -/
lemma Within.eq_or_utf8Length_lt (h : Within host domain) :
    host = domain ∨ Text.utf8Length domain.toList < Text.utf8Length host.toList := by
  rcases h with heq | ⟨front, hfront⟩
  · exact .inl heq
  · right
    rw [hfront]
    exact Text.utf8Length_lt_append_cons front '.' domain.toList

lemma Within.utf8Length_le (h : Within host domain) :
    Text.utf8Length domain.toList ≤ Text.utf8Length host.toList := by
  rcases h.eq_or_utf8Length_lt with rfl | hlt
  · exact le_rfl
  · exact hlt.le

lemma Within.length_le (h : Within host domain) : domain.toList.length ≤ host.toList.length := by
  rcases h with rfl | ⟨front, hfront⟩
  · exact le_rfl
  · rw [hfront, List.length_append, List.length_cons]
    omega

lemma Within.antisymm (h : Within host domain) (h' : Within domain host) : host = domain := by
  rcases h.eq_or_utf8Length_lt with heq | hlt
  · exact heq
  · rcases h'.eq_or_utf8Length_lt with heq | hlt'
    · exact heq.symm
    · omega

/-- Of two domains above a host, one lies above the other. -/
lemma Within.total (h : Within host domain) (h' : Within host other) :
    Within domain other ∨ Within other domain := by
  rw [within_iff_labels_suffix] at h h'
  rw [within_iff_labels_suffix, within_iff_labels_suffix]
  rcases Nat.le_total (labels domain).length (labels other).length with hle | hle
  · exact .inr (List.suffix_of_suffix_length_le h h' hle)
  · exact .inl (List.suffix_of_suffix_length_le h' h hle)

/-- Of two domains above a host, the one with no fewer bytes lies under the other. -/
lemma Within.iff_utf8Length_le (h : Within host domain) (h' : Within host other) :
    Within domain other ↔ Text.utf8Length other.toList ≤ Text.utf8Length domain.toList := by
  constructor
  · exact Within.utf8Length_le
  · intro hle
    rcases h.total h' with hwithin | hwithin
    · exact hwithin
    · rcases hwithin.eq_or_utf8Length_lt with rfl | hlt
      · exact .refl other
      · omega

/-! ## Names -/

/-- The labels of a name are made of letters, digits and hyphens. -/
lemma isName_iff_labels : IsName host ↔ ∀ label ∈ labels host, IsLabel label.toList := by
  simp [IsName, labels]

lemma IsName.of_within (h : IsName host) (hwithin : Within host domain) : IsName domain := by
  rw [isName_iff_labels] at *
  intro label hlabel
  exact h label ((within_iff_labels_suffix.mp hwithin).subset hlabel)

lemma Within.mem_toList (h : Within host domain) {c : Char} (hc : c ∈ domain.toList) :
    c ∈ host.toList := by
  rcases h with rfl | ⟨front, hfront⟩
  · exact hc
  · simp [hfront, hc]

lemma IsName.ne_empty (h : IsName host) : host ≠ "" := by
  rintro rfl
  exact h.toList_ne_nil rfl

end TrackerGuard.Host
