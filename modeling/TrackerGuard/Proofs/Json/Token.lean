import Mathlib
import TrackerGuard.Json.Reader
import TrackerGuard.Proofs.Text.Ends

/-!
# Texts and integers read back

What is written of a text or of an integer is read back as the same text or integer, and reading
stops right behind it.

A text is read character by character: whether a character was written as it is, as a letter behind
a backslash or by its four digits, the reader is between two characters again behind it, with one
character more (`readTextFrom_escapeChar`).  The digits of an integer are followed by something else
than a digit, a point or an exponent (`EndsNumber`), which holds of whatever may follow a value in a
list or in an object.
-/

namespace TrackerGuard.Json

/-! ## Texts -/

lemma hexValue?_hexDigit : ∀ n < 16, Text.hexValue? (Text.hexDigit n) = some n := by
  decide

/-- A character that is written by its four digits is read back. -/
lemma readTextFrom_unit {c : Char} (hc : c.toNat < 0x20) (out rest : List Char) :
    readTextFrom true .plain out
        (['\\', 'u', '0', '0', Text.hexDigit (c.toNat / 16), Text.hexDigit (c.toNat % 16)] ++
          rest) =
      readTextFrom true .plain (c :: out) rest := by
  have hhigh := hexValue?_hexDigit (c.toNat / 16) (by omega)
  have hlow := hexValue?_hexDigit (c.toNat % 16) (by omega)
  have hzero : Text.hexValue? '0' = some 0 := by decide
  have hvalue : 16 * (c.toNat / 16) + c.toNat % 16 = c.toNat := by omega
  have hmeaning : unitMeaning? none c.toNat = some (.inl c) := by
    have htrail : (0xDC00 ≤ c.toNat && c.toNat ≤ 0xDFFF) = false := by
      simp only [Bool.and_eq_false_iff, decide_eq_false_iff_not]
      omega
    have hlead : (0xD800 ≤ c.toNat && c.toNat ≤ 0xDBFF) = false := by
      simp only [Bool.and_eq_false_iff, decide_eq_false_iff_not]
      omega
    simp [unitMeaning?, htrail, hlead]
  simp [readTextFrom, hzero, hhigh, hlow, hvalue, hmeaning]

/-- A character is read back from what is written of it. -/
lemma readTextFrom_escapeChar (c : Char) (out rest : List Char) :
    readTextFrom true .plain out (escapeChar c ++ rest) =
      readTextFrom true .plain (c :: out) rest := by
  -- One case for each way to write a character, in the order of `escapeChar`.
  unfold escapeChar
  split
  · next h => simp [h, readTextFrom, unescape?]
  split
  · next h => simp [h, readTextFrom, unescape?]
  split
  · next h => simp [h, readTextFrom, unescape?]
  split
  · next h => simp [h, readTextFrom, unescape?]
  split
  · next h => simp [h, readTextFrom, unescape?]
  split
  · next h =>
      obtain rfl : c = '\x08' := Char.toNat_inj.mp h
      simp [readTextFrom, unescape?]
  split
  · next h =>
      obtain rfl : c = '\x0c' := Char.toNat_inj.mp h
      simp [readTextFrom, unescape?]
  split
  · next h => exact readTextFrom_unit h out rest
  · next hquote hbackslash _ _ _ _ _ hcontrol =>
      rw [List.singleton_append, readTextFrom, if_neg hquote, if_neg hbackslash, if_neg hcontrol]

lemma readTextFrom_flatMap (cs out rest : List Char) :
    readTextFrom true .plain out (cs.flatMap escapeChar ++ '"' :: rest) =
      .ok (out.reverse ++ cs, rest) := by
  induction cs generalizing out with
  | nil => simp [readTextFrom]
  | cons c cs ih =>
      rw [List.flatMap_cons, List.append_assoc, readTextFrom_escapeChar, ih]
      simp

/-- A text is written between quotation marks. -/
lemma writeText_append (s : String) (rest : List Char) :
    writeText s ++ rest = '"' :: (s.toList.flatMap escapeChar ++ '"' :: rest) := by
  simp [writeText]

/-- A text is read back from what is written of it behind the first quotation mark. -/
theorem readText_flatMap (s : String) (rest : List Char) :
    readText (s.toList.flatMap escapeChar ++ '"' :: rest) = .ok (s, rest) := by
  have hread := readTextFrom_flatMap s.toList [] rest
  rw [readText, hread]
  simp [bind, Except.bind, pure, Except.pure]

/-! ## Integers -/

/-- What follows a number so that its digits end there and neither a point nor an exponent goes
on. -/
def EndsNumber (rest : List Char) : Prop :=
  ∀ c ∈ rest.head?, c.isDigit = false ∧ c ≠ '.' ∧ c ≠ 'e' ∧ c ≠ 'E'

lemma isDigit_of_mem_toDigits {n : Nat} {c : Char} (h : c ∈ Nat.toDigits 10 n) : c.isDigit :=
  Nat.isDigit_of_mem_toDigits (by decide) (by decide) h

/-- The digits of a number begin with a zero only if there is no other. -/
lemma head?_toDigits_ne_zero (n : Nat) :
    (Nat.toDigits 10 n).head? ≠ some '0' ∨ (Nat.toDigits 10 n).length = 1 := by
  induction n using Nat.strongRecOn with
  | _ n ih =>
      by_cases hn : n < 10
      · right
        rw [Nat.toDigits_of_lt_base hn]
        rfl
      · left
        have hsmaller : n / 10 < n := by omega
        have hpos : 0 < n / 10 := by omega
        rw [Nat.toDigits_of_base_le (by decide) (by omega),
          List.head?_append_of_ne_nil _ Nat.toDigits_ne_nil]
        rcases ih (n / 10) hsmaller with hhead | hlength
        · exact hhead
        · -- A single digit in front is that of a number below ten, which is not zero.
          have hlt : n / 10 < 10 := by
            by_contra hge
            have hlong := (Nat.length_toDigits_le_iff (b := 10) (n := n / 10) (k := 1) (by decide)
              (by decide)).mp hlength.le
            omega
          have hdigit : ∀ d < 10, 0 < d → (Nat.digitChar d) ≠ '0' := by decide
          rw [Nat.toDigits_of_lt_base hlt]
          simpa using hdigit (n / 10) hlt hpos

/-- The digits of a number that fits into 64 bits are gathered without a rest. -/
lemma gather_eq (cs : List Char) {n : UInt64} {taken : Nat}
    (h : Nat.ofDigitChars 10 cs n.toNat < wordLimit) :
    gather n taken cs = (UInt64.ofNat (Nat.ofDigitChars 10 cs n.toNat), taken + cs.length) := by
  induction cs generalizing n taken with
  | nil => simp [gather]
  | cons c cs ih =>
      rw [Nat.ofDigitChars_cons] at h ⊢
      have hnext : n.toNat * 10 + (c.toNat - 48) = 10 * n.toNat + (c.toNat - '0'.toNat) := by
        rw [Nat.mul_comm]
        rfl
      have hle : ∀ m, m ≤ Nat.ofDigitChars 10 cs m := by
        intro m
        rw [Nat.ofDigitChars_eq_ofDigitChars_zero]
        have hpos : 0 < 10 ^ cs.length := by positivity
        nlinarith
      have hfits : n.toNat * 10 + (c.toNat - 48) < wordLimit := by
        rw [hnext]
        exact (hle _).trans_lt h
      have hword : (UInt64.ofNat (n.toNat * 10 + (c.toNat - 48))).toNat =
          10 * n.toNat + (c.toNat - '0'.toNat) := by
        rw [UInt64.toNat_ofNat_of_lt' hfits, hnext]
      rw [gather, if_pos hfits, ih (by rwa [hword]), hword, List.length_cons]
      simp only [Prod.mk.injEq, true_and]
      omega

/-- An integer is spelled by its sign and its digits. -/
def spellingOf (n : Int) : Spelling := ⟨n < 0, Nat.toDigits 10 n.natAbs, none, none⟩

/-- The spelling of an integer of 64 bits stands for it. -/
lemma number?_spellingOf {n : Int} (h : InRange n) :
    (spellingOf n).number? = some (.integer n) := by
  obtain ⟨hlow, hhigh⟩ := h
  have hfits : n.natAbs < wordLimit := by
    unfold leastInteger wordLimit at *
    omega
  have hdigits : Nat.ofDigitChars 10 (Nat.toDigits 10 n.natAbs) (0 : UInt64).toNat = n.natAbs :=
    Nat.ofDigitChars_ten_toDigits
  have hgather : gather 0 0 (Nat.toDigits 10 n.natAbs) =
      (UInt64.ofNat n.natAbs, 0 + (Nat.toDigits 10 n.natAbs).length) := by
    rw [gather_eq _ (hdigits.symm ▸ hfits), hdigits]
  have hword : (UInt64.ofNat n.natAbs).toNat = n.natAbs := UInt64.toNat_ofNat_of_lt' hfits
  have hinteger : (if decide (n < 0) = true then -((UInt64.ofNat n.natAbs).toNat : Int)
      else (UInt64.ofNat n.natAbs).toNat) = n := by
    rw [hword]
    by_cases hneg : n < 0
    · rw [if_pos (decide_eq_true hneg)]
      omega
    · rw [if_neg (by simpa using hneg)]
      omega
  have hsign : (decide (n < 0) && decide (UInt64.ofNat n.natAbs = 0)) = false := by
    by_cases hneg : n < 0
    · have hne : UInt64.ofNat n.natAbs ≠ 0 := by
        intro hzero
        have hnat := congrArg UInt64.toNat hzero
        rw [hword, UInt64.toNat_zero] at hnat
        omega
      simp [hne]
    · simp [hneg]
  unfold Spelling.number? spellingOf
  simp only [hgather, hinteger, hsign, hlow]
  simp

/-- The digits of a number are read up to what ends it. -/
lemma readWholeDigits_toDigits {rest : List Char} (n : Nat) (hrest : EndsNumber rest) :
    readWholeDigits true (Nat.toDigits 10 n ++ rest) = .ok (Nat.toDigits 10 n, rest) := by
  have hspan : (Nat.toDigits 10 n ++ rest).span Char.isDigit = (Nat.toDigits 10 n, rest) :=
    Text.span_append (fun c hc => isDigit_of_mem_toDigits hc) fun c hc => (hrest c hc).1
  have hdigits : readDigits true (Nat.toDigits 10 n ++ rest) = .ok (Nat.toDigits 10 n, rest) := by
    rw [readDigits, hspan]
    simp [Nat.toDigits_ne_nil]
  have hzero :
      ((Nat.toDigits 10 n).head? = some '0' && (Nat.toDigits 10 n).length ≠ 1) = false := by
    rcases head?_toDigits_ne_zero n with hhead | hlength
    · simp [hhead]
    · simp [hlength]
  rw [readWholeDigits, hdigits]
  simp only [bind, Except.bind]
  rw [hzero]
  rfl

lemma readFraction_of_endsNumber {rest : List Char} (h : EndsNumber rest) :
    readFraction true rest = .ok (none, rest) := by
  unfold readFraction
  split
  · exact absurd rfl (h '.' rfl).2.1
  · rfl

lemma readExponent_of_endsNumber {rest : List Char} (h : EndsNumber rest) :
    readExponent true rest = .ok (none, rest) := by
  unfold readExponent
  split
  · next c cs =>
      obtain ⟨-, -, hlower, hupper⟩ := h c rfl
      rw [if_neg (by simp [hlower, hupper])]
  · rfl

/-- An integer is read back from its digits as it is spelled. -/
lemma readSpelling_writeInt {rest : List Char} (n : Int) (hrest : EndsNumber rest) :
    readSpelling true (writeInt n ++ rest) = .ok (spellingOf n, rest) := by
  unfold readSpelling
  split
  next negative cs hsign =>
    have hparts : negative = decide (n < 0) ∧ cs = Nat.toDigits 10 n.natAbs ++ rest := by
      by_cases hneg : n < 0
      · have hwritten : writeInt n ++ rest = '-' :: (Nat.toDigits 10 n.natAbs ++ rest) := by
          simp [writeInt, hneg]
        rw [hwritten] at hsign
        obtain ⟨rfl, rfl⟩ := Prod.mk.inj hsign
        exact ⟨(decide_eq_true hneg).symm, rfl⟩
      · have hwritten : writeInt n ++ rest = Nat.toDigits 10 n.natAbs ++ rest := by
          simp [writeInt, hneg]
        rw [hwritten] at hsign
        split at hsign
        · next back htext =>
            -- The first character would be a minus, but it is a digit.
            have hminus : '-' ∈ Nat.toDigits 10 n.natAbs := by
              obtain ⟨d, ds, hds⟩ := List.exists_cons_of_ne_nil
                (Nat.toDigits_ne_nil (b := 10) (n := n.natAbs))
              rw [hds, List.cons_append] at htext
              rw [hds, (List.cons.inj htext).1]
              exact List.mem_cons_self
            exact absurd (isDigit_of_mem_toDigits hminus) (by decide)
        · obtain ⟨rfl, rfl⟩ := Prod.mk.inj hsign
          exact ⟨(decide_eq_false hneg).symm, rfl⟩
    obtain ⟨rfl, rfl⟩ := hparts
    rw [readWholeDigits_toDigits _ hrest]
    simp only [bind, Except.bind, readFraction_of_endsNumber hrest,
      readExponent_of_endsNumber hrest, pure, Except.pure, spellingOf]

/-- An integer of 64 bits is read back from what is written of it. -/
theorem readNumber_writeInt {n : Int} {rest : List Char} (h : InRange n)
    (hrest : EndsNumber rest) : readNumber (writeInt n ++ rest) = .ok (.integer n, rest) := by
  simp only [readNumber, readSpelling_writeInt n hrest, number?_spellingOf h, bind, Except.bind,
    pure, Except.pure]

end TrackerGuard.Json
