import Mathlib
import TrackerGuard.Host.Address
import TrackerGuard.Proofs.Host.Normal

/-!
# Names that are numeric addresses

A name may be a numeric address, but only one of four decimal numbers: the other notations need a
bracket or a colon, and a name has neither.  Four decimal numbers hold digits and full stops only,
which are the same in lower case.  So whether the normal form of a name is an address can be seen in
the name as it is written (`IsName.isAddress_normalize`).
-/

namespace TrackerGuard.Host

open Text

variable {host : String} {cs rest : List Char}

/-! ## Four decimal numbers -/

/-- Digits and full stops. -/
def IsDecimal (cs : List Char) : Prop := ∀ c ∈ cs, c = '.' ∨ c.isDigit

lemma IsDecimal.append {front back : List Char} (hfront : IsDecimal front)
    (hback : IsDecimal back) : IsDecimal (front ++ back) := by
  intro c hc
  rcases List.mem_append.mp hc with hc | hc
  · exact hfront c hc
  · exact hback c hc

/-- A number takes digits off the front. -/
lemma exists_of_octet? (h : octet? cs = some rest) :
    ∃ digits, cs = digits ++ rest ∧ IsDecimal digits := by
  rcases hspan : cs.span Char.isDigit with ⟨digits, rest'⟩
  obtain ⟨hcs, hdigits, -⟩ := span_eq_iff.mp hspan
  simp only [octet?, hspan] at h
  split_ifs at h
  cases h
  exact ⟨digits, hcs, fun c hc => .inr (hdigits c hc)⟩

lemma exists_of_dotted?_next (h : dotted?.next cs = some rest) :
    ∃ front, cs = front ++ rest ∧ IsDecimal front := by
  unfold dotted?.next at h
  split at h
  next behind =>
    obtain ⟨digits, rfl, hdigits⟩ := exists_of_octet? h
    have hdot : IsDecimal ['.'] := fun c hc => .inl (List.mem_singleton.mp hc)
    exact ⟨'.' :: digits, rfl, hdot.append hdigits⟩
  next => cases h

lemma exists_of_dotted? (h : dotted? cs = some rest) :
    ∃ front, cs = front ++ rest ∧ IsDecimal front := by
  obtain ⟨cs₁, h₁, h⟩ := Option.bind_eq_some_iff.mp h
  obtain ⟨cs₂, h₂, h⟩ := Option.bind_eq_some_iff.mp h
  obtain ⟨cs₃, h₃, h₄⟩ := Option.bind_eq_some_iff.mp h
  obtain ⟨first, rfl, hfirst⟩ := exists_of_octet? h₁
  obtain ⟨second, rfl, hsecond⟩ := exists_of_dotted?_next h₂
  obtain ⟨third, rfl, hthird⟩ := exists_of_dotted?_next h₃
  obtain ⟨fourth, rfl, hfourth⟩ := exists_of_dotted?_next h₄
  exact ⟨first ++ (second ++ (third ++ fourth)), by simp,
    hfirst.append (hsecond.append (hthird.append hfourth))⟩

lemma isDecimal_of_isDotted (h : isDotted cs) : IsDecimal cs := by
  obtain ⟨front, hcs, hfront⟩ := exists_of_dotted? (beq_iff_eq.mp h)
  rwa [hcs, List.append_nil]

lemma IsDecimal.isAlpha_eq_false (h : IsDecimal cs) {c : Char} (hc : c ∈ cs) :
    c.isAlpha = false := by
  rcases h c hc with rfl | hdigit
  · rfl
  · by_contra halpha
    simp only [Char.isDigit, Char.isAlpha, Char.isUpper, Char.isLower, Bool.not_eq_false,
      Bool.or_eq_true, Bool.and_eq_true, decide_eq_true_eq, ge_iff_le,
      UInt32.le_iff_toNat_le] at hdigit halpha
    have hnine : '9'.val.toNat = 57 := rfl
    have hcapital : 'A'.val.toNat = 65 := rfl
    have hsmall : 'a'.val.toNat = 97 := rfl
    omega

/-- Four decimal numbers are the same in lower case, and no letter is made a part of them. -/
lemma isDotted_asciiLower (cs : List Char) : isDotted (asciiLower cs) = isDotted cs := by
  rw [Bool.eq_iff_iff]
  constructor
  · intro h
    have hsame : cs = asciiLower cs :=
      (asciiLower_eq_iff fun c hc => (isDecimal_of_isDotted h).isAlpha_eq_false hc).mp rfl
    rwa [← hsame] at h
  · intro h
    have hsame : asciiLower cs = cs :=
      (asciiLower_eq_iff fun c hc => (isDecimal_of_isDotted h).isAlpha_eq_false hc).mpr rfl
    rwa [hsame]

/-! ## Groups -/

/-- Behind the first group there has to be a colon. -/
lemma groups_of_colon_notMem (count limit : Nat) (h : ':' ∉ cs) :
    groups false count limit cs = (count, false, cs) := by
  have hnone : separator? false cs = none := by
    unfold separator?
    simp only [Bool.false_eq_true, if_false]
    split
    next => exact absurd List.mem_cons_self h
    next => rfl
  cases limit with
  | zero => rfl
  | succ limit =>
      rw [groups, hnone]
      simp

lemma mem_of_group? (h : group? cs = some rest) {c : Char} (hc : c ∈ rest) : c ∈ cs := by
  rcases hspan : cs.span (fun c => (hexValue? c).isSome) with ⟨digits, rest'⟩
  obtain ⟨hcs, -, -⟩ := span_eq_iff.mp hspan
  simp only [group?, hspan] at h
  split_ifs at h
  cases h
  exact hcs ▸ List.mem_append_right _ hc

/-- One group is not enough when no colon follows. -/
lemma isGrouped_eq_false_of_few {count : Nat} (hcount : count ≤ 1) (hrest : ':' ∉ rest)
    (hgroups : groups true 0 8 cs = (count, false, rest)) : isGrouped cs = false := by
  unfold isGrouped
  rw [hgroups]
  split
  next height =>
    cases height
    omega
  next htrue => cases htrue
  next hcolons =>
    cases hcolons
    exact absurd List.mem_cons_self hrest
  next => rfl

/-- Without a colon there is one group at most, or four decimal numbers, and neither is enough. -/
lemma isGrouped_eq_false (h : ':' ∉ cs) : isGrouped cs = false := by
  cases hdotted : dotted? cs with
  | some rest =>
      have hgroups : groups true 0 8 cs = (2, true, rest) := by
        rw [groups]
        simp [separator?, hdotted]
      rw [isGrouped, hgroups]
      rfl
  | none =>
      cases hgroup : group? cs with
      | some rest =>
          have hrest : ':' ∉ rest := fun hmem => h (mem_of_group? hgroup hmem)
          apply isGrouped_eq_false_of_few le_rfl hrest
          rw [groups]
          simp [separator?, hdotted, hgroup, groups_of_colon_notMem 1 7 hrest]
      | none =>
          apply isGrouped_eq_false_of_few (Nat.zero_le 1) h
          rw [groups]
          simp [separator?, hdotted, hgroup]

/-! ## Names -/

lemma IsName.isAddress_eq (h : IsName host) : isAddress host = isDotted host.toList := by
  have hopen : host.toList.head? ≠ some '[' := by
    intro hhead
    exact h.notMem (by decide) rfl (List.mem_of_mem_head? (Option.mem_def.mpr hhead))
  have hgrouped : isGrouped host.toList = false := isGrouped_eq_false (h.notMem (by decide) rfl)
  simp [isAddress, hopen, hgrouped]

/-- The normal form of a name is a numeric address when the name is four decimal numbers. -/
lemma IsName.isAddress_normalize (h : IsName host) :
    isAddress (normalize host) = isDotted host.toList := by
  rw [h.isName_normalize.isAddress_eq, h.toList_normalize, isDotted_asciiLower]

end TrackerGuard.Host
