import Mathlib
import TrackerGuard.Proofs.Host.Suffix
import TrackerGuard.Proofs.Text.Ends

/-!
# Normal forms of hosts

A host is stripped of blanks, then of full stops, and lowered.  As each step shortens the text or
leaves its length alone, a host is its own normal form exactly when none of the steps changes it
(`normalize_eq_self_iff`): a blank behind a leading full stop is enough to keep a normal form from
being one.

With names nothing of the kind happens.  The normal form of a name is the name in lower case, and
it is a name with as many labels.
-/

namespace TrackerGuard.Host

open Text

variable {host domain : String}

lemma toList_normalize (host : String) :
    (normalize host).toList = asciiLower (stripDots (trim host.toList)) := by
  simp [normalize]

/-- A host is its own normal form when it has neither blanks nor full stops at its ends and no
capital letters. -/
theorem normalize_eq_self_iff :
    normalize host = host ↔
      HasPlainEnds isBlank host.toList ∧ HasPlainEnds (· == '.') host.toList ∧
        IsLower host.toList := by
  rw [← String.toList_inj, toList_normalize]
  constructor
  · intro h
    have hlength : (stripDots (trim host.toList)).length = host.toList.length := by
      simpa [asciiLower] using congrArg List.length h
    have hdots : (stripDots (trim host.toList)).length ≤ (trim host.toList).length :=
      length_strip_le _ _
    have hblanks : (trim host.toList).length ≤ host.toList.length := length_strip_le _ _
    have htrim : trim host.toList = host.toList := strip_eq_self_of_length (by
      rw [← trim]
      omega)
    rw [htrim] at h hlength
    have hstrip : stripDots host.toList = host.toList := strip_eq_self_of_length hlength
    rw [hstrip] at h
    exact ⟨strip_eq_self_iff.mp htrim, strip_eq_self_iff.mp hstrip, asciiLower_eq_self_iff.mp h⟩
  · rintro ⟨hblanks, hdots, hlower⟩
    rw [trim, strip_eq_self_iff.mpr hblanks, stripDots, strip_eq_self_iff.mpr hdots,
      asciiLower_eq_self_iff.mpr hlower]

/-- Nothing is left of a host that has full stops alone between the blanks at its ends. -/
lemma normalize_eq_empty_iff : normalize host = "" ↔ ∀ c ∈ trim host.toList, c = '.' := by
  rw [← String.toList_inj, toList_normalize, asciiLower, String.toList_empty, List.map_eq_nil_iff,
    stripDots, strip_eq_nil_iff]
  simp only [beq_iff_eq]

/-- In lower case, a host that is not its own normal form is longer than that. -/
lemma length_normalize_lt (hlower : IsLower host.toList) (h : normalize host ≠ host) :
    (normalize host).toList.length < host.toList.length := by
  have htrim : (trim host.toList).length ≤ host.toList.length := length_strip_le _ _
  have hdots : (stripDots (trim host.toList)).length ≤ (trim host.toList).length :=
    length_strip_le _ _
  rw [toList_normalize, asciiLower, List.length_map]
  by_contra hlong
  have htrim' : trim host.toList = host.toList :=
    strip_eq_self_of_length (htrim.antisymm (by omega))
  rw [htrim'] at hdots hlong
  have hdots' : stripDots host.toList = host.toList :=
    strip_eq_self_of_length (hdots.antisymm (by omega))
  refine h (normalize_eq_self_iff.mpr ⟨?_, ?_, hlower⟩)
  · exact strip_eq_self_iff.mp htrim'
  · exact strip_eq_self_iff.mp hdots'

lemma isLower_normalize (host : String) : IsLower (normalize host).toList := by
  rw [toList_normalize]
  exact isLower_asciiLower _

lemma toLower_eq_dot_iff {c : Char} : c.toLower = '.' ↔ c = '.' := toLower_eq_iff rfl

/-- No full stop is left at the ends of a normal form. -/
lemma hasPlainEnds_dot_normalize (host : String) :
    HasPlainEnds (· == '.') (normalize host).toList := by
  obtain ⟨hhead, hlast⟩ := hasPlainEnds_strip (· == '.') (trim host.toList)
  have hlower {c : Char} (hc : (c == '.') = false) : (c.toLower == '.') = false := by
    rw [beq_eq_false_iff_ne, ne_eq, toLower_eq_dot_iff]
    simpa using hc
  rw [toList_normalize, asciiLower, HasPlainEnds, List.head?_map, List.getLast?_map]
  constructor
  · intro c hc
    obtain ⟨d, hd, rfl⟩ := Option.mem_map.mp hc
    exact hlower (hhead d hd)
  · intro c hc
    obtain ⟨d, hd, rfl⟩ := Option.mem_map.mp hc
    exact hlower (hlast d hd)

/-- Nothing empty lies above a normal form, unless nothing is left of the host. -/
lemma ne_empty_of_within_normalize (hne : normalize host ≠ "")
    (h : Within (normalize host) domain) : domain ≠ "" := by
  rintro rfl
  rcases h with heq | ⟨front, hfront⟩
  · exact hne heq
  · have hlast := (hasPlainEnds_dot_normalize host).2 '.' (by simp [hfront])
    simp at hlast

/-! ## Names -/

lemma isBlank_eq_false_of_isLabelChar {c : Char} (h : isLabelChar c) : isBlank c = false := by
  simp only [isLabelChar, Char.isAlphanum, Char.isAlpha, Char.isUpper, Char.isLower, Char.isDigit,
    Bool.or_eq_true, Bool.and_eq_true, decide_eq_true_eq, beq_iff_eq, UInt32.le_iff_toNat_le] at h
  have hcode : 0x2D ≤ c.toNat ∧ c.toNat ≤ 0x7A := by
    rcases h with ((⟨hlow, hhigh⟩ | ⟨hlow, hhigh⟩) | ⟨hlow, hhigh⟩) | rfl
    · exact ⟨le_trans (by decide) hlow, le_trans hhigh (by decide)⟩
    · exact ⟨le_trans (by decide) hlow, le_trans hhigh (by decide)⟩
    · exact ⟨le_trans (by decide) hlow, le_trans hhigh (by decide)⟩
    · decide
  by_contra hblank
  simp only [isBlank, Bool.not_eq_false, Bool.or_eq_true, Bool.and_eq_true, decide_eq_true_eq,
    beq_iff_eq] at hblank
  omega

lemma IsName.hasPlainEnds_blank (h : IsName host) : HasPlainEnds isBlank host.toList := by
  have hplain : ∀ c ∈ host.toList, isBlank c = false := by
    intro c hc
    rcases h.eq_dot_or_isLabelChar hc with rfl | hlabel
    · rfl
    · exact isBlank_eq_false_of_isLabelChar hlabel
  exact ⟨fun c hc => hplain c (List.mem_of_mem_head? hc),
    fun c hc => hplain c (List.mem_of_mem_getLast? hc)⟩

lemma IsName.hasPlainEnds_dot (h : IsName host) : HasPlainEnds (· == '.') host.toList := by
  constructor
  · intro c hc
    obtain ⟨back, hback⟩ := List.head?_eq_some_iff.mp hc
    by_contra hdot
    obtain rfl : c = '.' := by simpa using hdot
    have hfront : host.toList = [] ++ '.' :: back := hback
    exact h.front_ne_nil hfront rfl
  · intro c hc
    obtain ⟨front, hfront⟩ := List.getLast?_eq_some_iff.mp hc
    by_contra hdot
    obtain rfl : c = '.' := by simpa using hdot
    exact h.back_ne_nil hfront rfl

/-- The normal form of a name is the name in lower case. -/
lemma IsName.toList_normalize (h : IsName host) :
    (normalize host).toList = asciiLower host.toList := by
  rw [Host.toList_normalize, trim, strip_eq_self_iff.mpr h.hasPlainEnds_blank, stripDots,
    strip_eq_self_iff.mpr h.hasPlainEnds_dot]

lemma isLabelChar_toLower {c : Char} (h : isLabelChar c) : isLabelChar c.toLower := by
  by_cases halpha : c.isAlpha
  · have hlower : c.toLower.isAlpha := by rwa [Char.isAlpha_toLower_eq_isAlpha]
    simp [isLabelChar, Char.isAlphanum, hlower]
  · have hupper : ¬ c.isUpper := by
      intro hupper
      exact halpha (by simp [Char.isAlpha, hupper])
    rwa [Char.toLower_eq_of_not_isUpper hupper]

/-- Full stops are not touched when a host is lowered, so its labels are lowered one by one. -/
lemma splitOn_asciiLower (cs : List Char) :
    (asciiLower cs).splitOn '.' = (cs.splitOn '.').map asciiLower := by
  induction cs with
  | nil => rfl
  | cons c cs ih =>
      have hcons : asciiLower (c :: cs) = c.toLower :: asciiLower cs := rfl
      obtain ⟨first, rest, hsplit⟩ := List.exists_cons_of_ne_nil (List.splitOn_ne_nil '.' cs)
      rw [hcons, List.splitOn_cons_eq_if_modifyHead, List.splitOn_cons_eq_if_modifyHead, ih,
        hsplit]
      by_cases hc : c = '.'
      · have hdot : c.toLower = '.' := toLower_eq_dot_iff.mpr hc
        simp [hc, asciiLower]
      · have hdot : c.toLower ≠ '.' := fun h => hc (toLower_eq_dot_iff.mp h)
        simp [hc, hdot, asciiLower]

/-- The normal form of a name has as many labels. -/
lemma IsName.length_labels_normalize (h : IsName host) :
    (labels (normalize host)).length = (labels host).length := by
  rw [labels, labels, h.toList_normalize, splitOn_asciiLower, List.length_map, List.length_map,
    List.length_map]

/-- Names stay names when they are lowered. -/
lemma IsName.isName_normalize (h : IsName host) : IsName (normalize host) := by
  intro label hlabel
  rw [h.toList_normalize, splitOn_asciiLower] at hlabel
  obtain ⟨label, hwritten, rfl⟩ := List.mem_map.mp hlabel
  obtain ⟨hne, hchars⟩ := h label hwritten
  refine ⟨by simpa [asciiLower] using hne, ?_⟩
  intro c hc
  obtain ⟨d, hd, rfl⟩ := List.mem_map.mp hc
  exact isLabelChar_toLower (hchars d hd)

/-- A name without capital letters. -/
structure IsLowerName (host : String) : Prop where
  isName : IsName host
  isLower : IsLower host.toList

instance (host : String) : Decidable (IsLowerName host) :=
  decidable_of_iff (IsName host ∧ IsLower host.toList)
    ⟨fun ⟨hname, hlower⟩ => ⟨hname, hlower⟩, fun h => ⟨h.isName, h.isLower⟩⟩

lemma IsName.isLowerName_normalize (h : IsName host) : IsLowerName (normalize host) :=
  ⟨h.isName_normalize, isLower_normalize host⟩

namespace IsLowerName

/-- A name in lower case is its own normal form. -/
lemma normalize_eq_self (h : IsLowerName host) : normalize host = host :=
  normalize_eq_self_iff.mpr ⟨h.isName.hasPlainEnds_blank, h.isName.hasPlainEnds_dot, h.isLower⟩

lemma of_within (h : IsLowerName host) (hwithin : Within host domain) : IsLowerName domain :=
  ⟨h.isName.of_within hwithin, fun c hc => h.isLower c (hwithin.mem_toList hc)⟩

end IsLowerName

/-- What lies under a domain lies under it in normal form, too. -/
lemma Within.normalize (hhost : IsName host) (h : Within host domain) :
    Within (normalize host) (normalize domain) := by
  have hdomain : IsName domain := hhost.of_within h
  rcases h with rfl | ⟨front, hfront⟩
  · exact .refl _
  · right
    refine ⟨asciiLower front, ?_⟩
    rw [hhost.toList_normalize, hdomain.toList_normalize, hfront, asciiLower, List.map_append,
      List.map_cons]
    rfl

end TrackerGuard.Host
