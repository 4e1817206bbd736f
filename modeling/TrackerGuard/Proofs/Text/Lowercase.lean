import Mathlib
import TrackerGuard.Proofs.Text.Ends
import TrackerGuard.Text.Lowercase

/-!
# Lower case by the full rules

Lowering goes through a text from left to right and writes the lower-case form of each character,
which may depend on the characters around it.  Whatever these are, no capital letter of ASCII is
written, something is written for every character, and a full stop is written for a full stop only.
So the result is empty only for the empty text, and it has plain ends with respect to the full stop
when the text has.

The last fact is one about the table: no letter beyond ASCII has a lower-case form whose code point
is as low as that of the full stop or of a capital letter.
-/

namespace TrackerGuard.Text

variable {before cs : List Char} {c : Char}

/-! ## The table -/

/-- What the search finds is the code point itself, or the run of the code point has moved it. -/
lemma lowerCodeIn_eq_or (t : Array (Nat × Nat × Nat × Int)) (n lo hi : Nat) :
    lowerCodeIn t n lo hi = n ∨
      ∃ run ∈ t, run.1 ≤ n ∧ n ≤ run.2.1 ∧ lowerCodeIn t n lo hi = (n + run.2.2.2).toNat := by
  fun_induction lowerCodeIn t n lo hi with
  | case1 lo hi hlt mid hnone => exact .inl rfl
  | case2 lo hi hlt mid first last step distance hrun hbelow ih => exact ih
  | case3 lo hi hlt mid first last step distance hrun hfrom habove ih => exact ih
  | case4 lo hi hlt mid first last step distance hrun hfrom hto hstep =>
      have hmem : (first, last, step, distance) ∈ t := Array.mem_of_getElem? hrun
      exact .inr ⟨_, hmem, Nat.le_of_not_lt hfrom, Nat.le_of_not_lt hto, rfl⟩
  | case5 lo hi hlt mid first last step distance hrun hfrom hto hstep => exact .inl rfl
  | case6 lo hi hge => exact .inl rfl

/-- The runs beyond ASCII lead to code points above those of the capital letters. -/
lemma lowercaseRuns_above_capitals :
    ∀ run ∈ lowercaseRuns, run.2.1 < 0x80 ∨ 0x5B ≤ (run.1 : Int) + run.2.2.2 := by
  decide +kernel

lemma le_lowerCodeIn {n : Nat} (lo hi : Nat) (hn : 0x80 ≤ n) :
    0x5B ≤ lowerCodeIn lowercaseRuns n lo hi := by
  rcases lowerCodeIn_eq_or lowercaseRuns n lo hi with h | ⟨run, hrun, hfirst, hlast, h⟩
  · omega
  · rw [h]
    rcases lowercaseRuns_above_capitals run hrun with hascii | hlow
    · omega
    · omega

/-! ## Characters -/

/-- The lower-case form of a character beyond ASCII is none of the characters up to `Z`, except
for the null character. -/
lemma toNat_lowerChar (hc : 0x80 ≤ c.toNat) :
    (lowerChar c).toNat = 0 ∨ 0x5B ≤ (lowerChar c).toNat := by
  have hcode := le_lowerCodeIn 0 lowercaseRuns.size hc
  rw [lowerChar, if_neg (by omega), Char.toNat_ofNat]
  split_ifs
  · exact .inr hcode
  · exact .inl rfl

lemma isUpper_iff : c.isUpper ↔ 0x41 ≤ c.toNat ∧ c.toNat ≤ 0x5A := by
  simp [Char.isUpper, UInt32.le_iff_toNat_le, ← Char.toNat_val]

lemma isUpper_lowerChar (c : Char) : (lowerChar c).isUpper = false := by
  by_cases hc : c.toNat < 0x80
  · rw [lowerChar, if_pos hc]
    exact Char.isUpper_toLower_eq_false c
  · have hcode := toNat_lowerChar (Nat.le_of_not_lt hc)
    by_contra hupper
    rw [Bool.not_eq_false, isUpper_iff] at hupper
    omega

lemma lowerChar_ne_dot (hc : c ≠ '.') : lowerChar c ≠ '.' := by
  intro hdot
  by_cases hascii : c.toNat < 0x80
  · rw [lowerChar, if_pos hascii] at hdot
    by_cases hupper : c.isUpper
    · have hlower : c.toLower.isAlpha := by
        rw [Char.isAlpha_toLower_eq_isAlpha]
        simp [Char.isAlpha, hupper]
      rw [hdot] at hlower
      exact absurd hlower (by decide)
    · rw [Char.toLower_eq_of_not_isUpper hupper] at hdot
      exact hc hdot
  · have hcode := toNat_lowerChar (Nat.le_of_not_lt hascii)
    rw [hdot] at hcode
    exact absurd hcode (by decide)

/-! ## Texts -/

lemma lowerBetween_ne_nil (before : List Char) (c : Char) (after : List Char) :
    lowerBetween before c after ≠ [] := by
  unfold lowerBetween
  split_ifs <;> simp

/-- What is written for a character is in lower case. -/
lemma isLower_lowerBetween (before : List Char) (c : Char) (after : List Char) :
    IsLower (lowerBetween before c after) := by
  unfold lowerBetween
  split_ifs
  · decide
  · decide
  · decide
  · intro d hd
    obtain rfl := List.mem_singleton.mp hd
    exact isUpper_lowerChar c

/-- A full stop is written for a full stop only. -/
lemma dot_notMem_lowerBetween (before : List Char) (hc : c ≠ '.') (after : List Char) :
    '.' ∉ lowerBetween before c after := by
  unfold lowerBetween
  split_ifs
  · decide
  · decide
  · decide
  · intro hdot
    exact lowerChar_ne_dot hc (List.mem_singleton.mp hdot).symm

lemma lowerFrom_eq_append (before out cs : List Char) :
    lowerFrom before out cs = out.reverse ++ lowerFrom before [] cs := by
  induction cs generalizing before out with
  | nil => simp [lowerFrom]
  | cons c cs ih =>
      rw [lowerFrom, lowerFrom, ih, ih (c :: before) (_ ++ [])]
      simp

/-- The first character is written first. -/
lemma lowerFrom_cons (before : List Char) (c : Char) (cs : List Char) :
    lowerFrom before [] (c :: cs) = lowerBetween before c cs ++ lowerFrom (c :: before) [] cs := by
  rw [lowerFrom, lowerFrom_eq_append]
  simp

/-- The last character is written last. -/
lemma lowerFrom_append_singleton (before front : List Char) (c : Char) :
    ∃ written passed, lowerFrom before [] (front ++ [c]) = written ++ lowerBetween passed c [] := by
  induction front generalizing before with
  | nil =>
      refine ⟨[], before, ?_⟩
      rw [List.nil_append, lowerFrom_cons]
      simp [lowerFrom]
  | cons d front ih =>
      obtain ⟨written, passed, h⟩ := ih (d :: before)
      refine ⟨lowerBetween before d (front ++ [c]) ++ written, passed, ?_⟩
      rw [List.cons_append, lowerFrom_cons, h, List.append_assoc]

lemma isLower_lowerFrom (before cs : List Char) : IsLower (lowerFrom before [] cs) := by
  induction cs generalizing before with
  | nil => simp [lowerFrom, IsLower]
  | cons c cs ih =>
      rw [lowerFrom_cons]
      intro d hd
      rcases List.mem_append.mp hd with hd | hd
      · exact isLower_lowerBetween before c cs d hd
      · exact ih (c :: before) d hd

/-- A lowered text has no capital letter. -/
theorem isLower_toLower (cs : List Char) : IsLower (toLower cs) := isLower_lowerFrom [] cs

lemma toLower_ne_nil (h : cs ≠ []) : toLower cs ≠ [] := by
  obtain ⟨c, cs, rfl⟩ := List.exists_cons_of_ne_nil h
  rw [toLower, lowerFrom_cons]
  intro hnil
  exact lowerBetween_ne_nil [] c cs (List.append_eq_nil_iff.mp hnil).1

/-- Lowering puts no full stop at an end of a text that has none there. -/
theorem hasPlainEnds_toLower (h : HasPlainEnds (· == '.') cs) :
    HasPlainEnds (· == '.') (toLower cs) := by
  obtain ⟨hhead, hlast⟩ := h
  constructor
  · intro d hd
    cases cs with
    | nil => simp [toLower, lowerFrom] at hd
    | cons c cs =>
        have hc : c ≠ '.' := by simpa using hhead c rfl
        rw [toLower, lowerFrom_cons, List.head?_append_of_ne_nil _ (lowerBetween_ne_nil [] c cs)]
          at hd
        have hmem := List.mem_of_mem_head? hd
        simpa using ne_of_mem_of_not_mem hmem (dot_notMem_lowerBetween [] hc cs)
  · intro d hd
    rcases cs.eq_nil_or_concat' with rfl | ⟨front, c, rfl⟩
    · simp [toLower, lowerFrom] at hd
    · have hc : c ≠ '.' := by simpa using hlast c (by simp)
      obtain ⟨written, passed, hwritten⟩ := lowerFrom_append_singleton [] front c
      rw [toLower, hwritten, List.getLast?_append_of_ne_nil _ (lowerBetween_ne_nil passed c [])]
        at hd
      have hmem := List.mem_of_mem_getLast? hd
      simpa using ne_of_mem_of_not_mem hmem (dot_notMem_lowerBetween passed hc [])

end TrackerGuard.Text
