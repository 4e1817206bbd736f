import Mathlib

/-!
# The order of texts

Texts are compared character by character.  Comparing their bytes in UTF-8 comes to the same
(`lt_iff_bytes_lt`): in the encodings of two characters the first bytes that differ are ordered as
the characters are, and neither encoding is a beginning of the other.
-/

namespace TrackerGuard.Text

/-- The bytes of a text in UTF-8. -/
def bytes (s : String) : List UInt8 := s.toUTF8.data.toList

/-- The bytes of a text are those of its characters. -/
lemma bytes_eq_flatMap (s : String) : bytes s = s.toList.flatMap String.utf8EncodeChar := by
  have hencode : s.toUTF8 = (s.toList.flatMap String.utf8EncodeChar).toByteArray := by
    rw [String.toUTF8_eq_toByteArray, ← List.utf8Encode, String.utf8Encode_toList]
  rw [bytes, hencode, List.toList_data_toByteArray]

/-- The bytes of a character decide before those of what follows it. -/
lemma utf8EncodeChar_append_lt {c d : Char} (h : c < d) (front back : List UInt8) :
    String.utf8EncodeChar c ++ front < String.utf8EncodeChar d ++ back := by
  have hlt : c.val.toNat < d.val.toNat := h
  have hvalid : d.val.toNat < 1114112 := by
    rcases d.valid with hlow | ⟨-, hhigh⟩
    · exact hlow.trans (by decide)
    · exact hhigh
  -- The four digits of a number in the base 64: what is written of the longest characters.
  have hdigits (n : Nat) (hn : n < 1114112) :
      n = 262144 * (n / 262144 % 8) + 4096 * (n / 4096 % 64) + 64 * (n / 64 % 64) + n % 64 := by
    have hsecond : n / 64 / 64 = n / 4096 := Nat.div_div_eq_div_mul n 64 64
    have hthird : n / 4096 / 64 = n / 262144 := Nat.div_div_eq_div_mul n 4096 64
    omega
  have hbyte {n : Nat} (hn : n < 256) : n % 256 = n := Nat.mod_eq_of_lt hn
  unfold String.utf8EncodeChar
  generalize c.val.toNat = v at *
  generalize d.val.toNat = w at *
  have hv := hdigits v (hlt.trans hvalid)
  have hw := hdigits w hvalid
  dsimp only
  -- One case for each pair of lengths; those in which the larger character is the shorter one do
  -- not occur.
  split_ifs <;>
    simp (disch := omega) only [List.cons_append, List.nil_append, List.cons_lt_cons_iff,
      UInt8.lt_iff_toNat_lt, ← UInt8.toNat_inj, UInt8.toNat_ofNat', Nat.reducePow, hbyte] <;>
    omega

lemma flatMap_utf8EncodeChar_lt {cs ds : List Char} (h : cs < ds) :
    cs.flatMap String.utf8EncodeChar < ds.flatMap String.utf8EncodeChar := by
  induction ds generalizing cs with
  | nil => cases h
  | cons d ds ih =>
      cases cs with
      | nil =>
          have hlength : (String.utf8EncodeChar d).length ≠ 0 := by
            rw [String.length_utf8EncodeChar]
            exact d.utf8Size_pos.ne'
          obtain ⟨b, bs, hbs⟩ := List.exists_cons_of_length_pos (Nat.pos_of_ne_zero hlength)
          rw [List.flatMap_nil, List.flatMap_cons, hbs]
          exact List.nil_lt_cons b _
      | cons c cs =>
          rw [List.flatMap_cons, List.flatMap_cons]
          rcases List.cons_lt_cons_iff.mp h with hlt | ⟨rfl, hrest⟩
          · exact utf8EncodeChar_append_lt hlt _ _
          · exact List.append_left_lt (ih hrest)

/-- Texts are ordered as their bytes are. -/
theorem lt_iff_bytes_lt {a b : String} : a < b ↔ bytes a < bytes b := by
  have hmono {a b : String} (h : a < b) : bytes a < bytes b := by
    rw [bytes_eq_flatMap, bytes_eq_flatMap]
    exact flatMap_utf8EncodeChar_lt h
  refine ⟨hmono, fun h => ?_⟩
  rcases lt_trichotomy a b with hlt | rfl | hgt
  · exact hlt
  · exact absurd h (List.lt_irrefl _)
  · exact absurd h (List.lt_asymm (hmono hgt))

end TrackerGuard.Text
