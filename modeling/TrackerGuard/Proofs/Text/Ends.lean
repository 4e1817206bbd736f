import Mathlib
import TrackerGuard.Text.Blank
import TrackerGuard.Text.Lowercase

/-!
# The ends of texts

`Text.strip` takes the characters of a class off both ends of a text.  What it leaves neither begins
nor ends with a character of the class (`strip_eq_iff`), and a text of which this holds already is
left alone (`strip_eq_self_iff`).  It never makes a text longer, and a text that it does not make
shorter is the same text.

Lowering the letters within ASCII leaves alone the texts without a capital letter.  A text that is
cut at a character in two ways is cut at the same place, or at a later one
(`cut_eq_or_later`); the first such place is where a search ends (`span_ne_eq_iff`).

The places in a text are counted in bytes.  Those between the parts that it is put together from are
positions of it, and what stands between them is the part (`exists_pos_of_append`).
-/

namespace TrackerGuard.Text

variable {p : Char → Bool} {cs : List Char}

/-- The text neither begins nor ends with a character of a class. -/
def HasPlainEnds (p : Char → Bool) (cs : List Char) : Prop :=
  (∀ c ∈ cs.head?, p c = false) ∧ ∀ c ∈ cs.getLast?, p c = false

instance : Decidable (HasPlainEnds p cs) :=
  decidable_of_iff (cs.head?.all (!p ·) ∧ cs.getLast?.all (!p ·))
    (by simp [HasPlainEnds, Option.all_eq_true])

lemma strip_eq_rdropWhile (p : Char → Bool) (cs : List Char) :
    strip p cs = (cs.dropWhile p).rdropWhile p := rfl

lemma isInfix_strip (p : Char → Bool) (cs : List Char) : strip p cs <:+: cs := by
  rw [strip_eq_rdropWhile]
  have hfront : (cs.dropWhile p).rdropWhile p <+: cs.dropWhile p := List.rdropWhile_prefix p _
  have hback : cs.dropWhile p <:+ cs := List.dropWhile_suffix p
  exact hfront.isInfix.trans hback.isInfix

lemma hasPlainEnds_strip (p : Char → Bool) (cs : List Char) : HasPlainEnds p (strip p cs) := by
  rw [strip_eq_rdropWhile]
  constructor
  · intro c hc
    obtain ⟨back, hback⟩ := List.rdropWhile_prefix p (cs.dropWhile p)
    have hdrop := List.head?_dropWhile_not p cs
    rw [← hback, List.head?_append, Option.mem_def.mp hc] at hdrop
    exact hdrop
  · intro c hc
    obtain ⟨hne, rfl⟩ := List.mem_getLast?_eq_getLast hc
    simpa using List.rdropWhile_last_not p _ hne

/-- Stripping leaves a text alone when its ends are none of the class. -/
lemma strip_eq_self_iff : strip p cs = cs ↔ HasPlainEnds p cs := by
  constructor
  · intro h
    rw [← h]
    exact hasPlainEnds_strip p cs
  · rintro ⟨hhead, hlast⟩
    have hfront : cs.dropWhile p = cs := by
      rw [List.dropWhile_eq_self_iff]
      intro hpos
      simpa using hhead _ (List.head?_eq_getElem? .. ▸ List.getElem?_eq_getElem hpos)
    rw [strip_eq_rdropWhile, hfront, List.rdropWhile_eq_self_iff]
    intro hne
    simpa using hlast _ (List.getLast?_eq_getLast_of_ne_nil hne)

/-- Nothing is left of a text that is made of the class alone. -/
lemma strip_eq_nil_iff : strip p cs = [] ↔ ∀ c ∈ cs, p c := by
  rw [strip_eq_rdropWhile, List.rdropWhile_eq_nil_iff, ← List.dropWhile_eq_nil_iff,
    List.dropWhile_idempotent, List.dropWhile_eq_nil_iff]

lemma length_strip_le (p : Char → Bool) (cs : List Char) : (strip p cs).length ≤ cs.length :=
  (isInfix_strip p cs).length_le

lemma strip_eq_self_of_length (h : (strip p cs).length = cs.length) : strip p cs = cs :=
  (isInfix_strip p cs).eq_of_length h

/-- The text `cs` is `core` with more characters of a class around it, and `core` neither begins nor
ends with one. -/
def Surrounds (p : Char → Bool) (core cs : List Char) : Prop :=
  HasPlainEnds p core ∧ ∃ front back, cs = front ++ core ++ back ∧
    (∀ c ∈ front, p c) ∧ ∀ c ∈ back, p c

lemma dropWhile_append_of_head? {front rest : List Char} (hfront : ∀ c ∈ front, p c)
    (hrest : ∀ c ∈ rest.head?, p c = false) : (front ++ rest).dropWhile p = rest := by
  rw [List.dropWhile_append_of_pos hfront]
  cases rest with
  | nil => rfl
  | cons c rest => rw [List.dropWhile_cons_of_neg (by simpa using hrest c rfl)]

/-- What stripping leaves is what the class surrounds. -/
lemma strip_eq_iff {core : List Char} : strip p cs = core ↔ Surrounds p core cs := by
  constructor
  · rintro rfl
    refine ⟨hasPlainEnds_strip p cs, cs.takeWhile p, (cs.dropWhile p).rtakeWhile p, ?_, ?_, ?_⟩
    · rw [strip_eq_rdropWhile, List.append_assoc, List.rdropWhile_append_rtakeWhile,
        List.takeWhile_append_dropWhile]
    · exact fun c => List.mem_takeWhile_imp
    · exact fun c => List.mem_rtakeWhile_imp
  · rintro ⟨⟨hhead, hlast⟩, front, back, rfl, hfront, hback⟩
    by_cases hcore : core = []
    · subst hcore
      rw [strip_eq_nil_iff]
      simpa [or_imp, forall_and] using ⟨hfront, hback⟩
    · rw [strip, List.append_assoc, dropWhile_append_of_head? hfront, List.reverse_append,
        dropWhile_append_of_head? (by simpa using hback), List.reverse_reverse]
      · simpa using hlast
      · simpa [hcore] using hhead

/-- A text that is joined from parts has plain ends when its parts have and none of them is empty. -/
lemma hasPlainEnds_intercalate {sep : List Char} {parts : List (List Char)}
    (h : ∀ part ∈ parts, part ≠ [] ∧ HasPlainEnds p part) :
    HasPlainEnds p (sep.intercalate parts) := by
  cases parts with
  | nil => exact ⟨by simp [List.intercalate], by simp [List.intercalate]⟩
  | cons part parts =>
      suffices hjoined : sep.intercalate (part :: parts) ≠ [] ∧
          HasPlainEnds p (sep.intercalate (part :: parts)) from hjoined.2
      induction parts generalizing part with
      | nil => simpa [List.intercalate] using h part List.mem_cons_self
      | cons next parts ih =>
          have hsplit : sep.intercalate (part :: next :: parts) =
              part ++ (sep ++ sep.intercalate (next :: parts)) := by
            simp [List.intercalate]
          obtain ⟨hpart, hhead, -⟩ := h part List.mem_cons_self
          obtain ⟨hrest, -, hlast⟩ := ih next fun other hother => h other (by simp_all)
          rw [hsplit, HasPlainEnds, List.head?_append_of_ne_nil _ hpart, ← List.append_assoc,
            List.getLast?_append_of_ne_nil _ hrest]
          exact ⟨by simp [hpart], hhead, hlast⟩

/-! ## Capital letters -/

/-- The text has no capital letter of ASCII. -/
def IsLower (cs : List Char) : Prop := ∀ c ∈ cs, c.isUpper = false

instance : Decidable (IsLower cs) :=
  decidable_of_iff (cs.all fun c => !c.isUpper) (by simp [IsLower])

lemma isLower_asciiLower (cs : List Char) : IsLower (asciiLower cs) := by
  intro c hc
  obtain ⟨d, -, rfl⟩ := List.mem_map.mp hc
  exact Char.isUpper_toLower_eq_false d

/-- What is no letter is made of nothing else when letters are lowered. -/
lemma toLower_eq_iff {c d : Char} (hd : d.isAlpha = false) : c.toLower = d ↔ c = d := by
  constructor
  · intro h
    have halpha : c.isAlpha = false := by rwa [← Char.isAlpha_toLower_eq_isAlpha, h]
    have hupper : ¬ c.isUpper := by
      intro hupper
      simp [Char.isAlpha, hupper] at halpha
    rwa [Char.toLower_eq_of_not_isUpper hupper] at h
  · rintro rfl
    exact Char.toLower_eq_of_not_isUpper fun hupper => by simp [Char.isAlpha, hupper] at hd

lemma asciiLower_eq_iff {ds : List Char} (hds : ∀ d ∈ ds, d.isAlpha = false) :
    asciiLower cs = ds ↔ cs = ds := by
  induction ds generalizing cs with
  | nil => simp [asciiLower]
  | cons d ds ih =>
      cases cs with
      | nil => simp [asciiLower]
      | cons c cs =>
          have hd : c.toLower = d ↔ c = d := toLower_eq_iff (hds d List.mem_cons_self)
          have htail : asciiLower cs = ds ↔ cs = ds :=
            ih fun e he => hds e (List.mem_cons_of_mem d he)
          rw [asciiLower, List.map_cons, ← asciiLower, List.cons_eq_cons, List.cons_eq_cons, hd,
            htail]

lemma asciiLower_eq_self_iff : asciiLower cs = cs ↔ IsLower cs := by
  constructor
  · intro h
    rw [← h]
    exact isLower_asciiLower cs
  · intro h
    have hmap : ∀ c ∈ cs, c.toLower = c := by
      intro c hc
      exact Char.toLower_eq_of_not_isUpper (by simp [h c hc])
    rw [asciiLower, List.map_congr_left hmap, List.map_id']

/-! ## Cutting a text -/

/-- A text with a character that its front does not hold: another cut at that character is the same
cut, or a later one. -/
lemma cut_eq_or_later {α : Type} {a : α} {x y z w : List α} (hx : a ∉ x)
    (h : x ++ a :: z = y ++ a :: w) :
    y = x ∧ w = z ∨ ∃ m, y = x ++ a :: m ∧ z = m ++ a :: w := by
  rcases List.append_eq_append_iff.mp h with ⟨m, rfl, hm⟩ | ⟨m, rfl, hm⟩
  · cases m with
    | nil => exact .inl ⟨by simp, by simpa using hm.symm⟩
    | cons b m =>
        obtain ⟨rfl, rfl⟩ := List.cons_eq_cons.mp hm
        exact .inr ⟨m, rfl, rfl⟩
  · cases m with
    | nil => exact .inl ⟨by simp, by simpa using hm⟩
    | cons b m =>
        obtain ⟨rfl, -⟩ := List.cons_eq_cons.mp hm
        exact absurd (by simp) hx

/-- A text is split where a class of characters ends. -/
lemma span_append {front back : List Char} (hfront : ∀ c ∈ front, p c)
    (hback : ∀ c ∈ back.head?, p c = false) : (front ++ back).span p = (front, back) := by
  rw [List.span_eq_takeWhile_dropWhile, List.takeWhile_append_of_pos hfront,
    List.dropWhile_append_of_pos hfront]
  cases back with
  | nil => simp
  | cons c back =>
      have hc : p c = false := hback c rfl
      simp [hc]

/-- A text is split behind its longest front of a class of characters. -/
lemma span_eq_iff {front back : List Char} :
    cs.span p = (front, back) ↔
      cs = front ++ back ∧ (∀ c ∈ front, p c) ∧ ∀ c ∈ back.head?, p c = false := by
  constructor
  · intro h
    rw [List.span_eq_takeWhile_dropWhile, Prod.mk.injEq] at h
    obtain ⟨rfl, rfl⟩ := h
    refine ⟨List.takeWhile_append_dropWhile.symm, fun c hc => List.mem_takeWhile_imp hc, ?_⟩
    intro c hc
    have hhead := List.head?_dropWhile_not p cs
    rwa [Option.mem_def.mp hc] at hhead
  · rintro ⟨rfl, hfront, hback⟩
    exact span_append hfront hback

/-- A text is split at the first place of a character. -/
lemma span_ne_eq_iff {a : Char} {front back : List Char} :
    cs.span (· != a) = (front, back) ↔
      cs = front ++ back ∧ a ∉ front ∧ ∀ c ∈ back.head?, c = a := by
  have hfront : (∀ c ∈ front, (c != a) = true) ↔ a ∉ front := by
    simp only [bne_iff_ne]
    exact ⟨fun h hmem => h a hmem rfl, fun h c hc heq => h (heq ▸ hc)⟩
  have hback : (∀ c ∈ back.head?, (c != a) = false) ↔ ∀ c ∈ back.head?, c = a := by
    simp only [bne_eq_false_iff_eq]
  rw [span_eq_iff, hfront, hback]

/-! ## Bytes -/

/-- The bytes of two texts add up. -/
lemma utf8Length_append (front back : List Char) :
    utf8Length (front ++ back) = utf8Length front + utf8Length back := by
  have hfrom (n : Nat) (cs : List Char) :
      cs.foldl (fun n c => n + c.utf8Size) n = n + utf8Length cs := by
    induction cs generalizing n with
    | nil => rfl
    | cons c cs ih =>
        rw [utf8Length, List.foldl_cons, List.foldl_cons, ih, ih]
        omega
  rw [utf8Length, List.foldl_append, hfrom]
  rfl

lemma utf8Length_cons (c : Char) (cs : List Char) :
    utf8Length (c :: cs) = c.utf8Size + utf8Length cs := by
  have happend := utf8Length_append [c] cs
  have hone : utf8Length [c] = c.utf8Size := by simp [utf8Length]
  rwa [hone] at happend

/-- What stands behind a character of a text has fewer bytes than the text. -/
lemma utf8Length_lt_append_cons (front : List Char) (c : Char) (back : List Char) :
    utf8Length back < utf8Length (front ++ c :: back) := by
  have hpos : 0 < c.utf8Size := c.utf8Size_pos
  rw [utf8Length_append, utf8Length_cons]
  omega

/-- Letters of ASCII have one byte each. -/
lemma utf8Length_of_isAlpha (h : ∀ c ∈ cs, c.isAlpha) : utf8Length cs = cs.length := by
  induction cs with
  | nil => rfl
  | cons c cs ih =>
      have hone : c.utf8Size = 1 := by
        have hc := h c List.mem_cons_self
        rw [Char.utf8Size_eq_one_iff]
        simp only [Char.isAlpha, Char.isUpper, Char.isLower, Bool.or_eq_true, Bool.and_eq_true,
          decide_eq_true_eq] at hc
        rcases hc with ⟨-, hc⟩ | ⟨-, hc⟩
        · exact UInt32.le_trans hc (by decide)
        · exact UInt32.le_trans hc (by decide)
      rw [utf8Length_cons, hone, ih fun d hd => h d (List.mem_cons_of_mem c hd), List.length_cons]
      omega

lemma utf8ByteSize_ofList (cs : List Char) : (String.ofList cs).utf8ByteSize = utf8Length cs := by
  induction cs with
  | nil => rfl
  | cons c cs ih =>
      rw [utf8Length_cons, ← ih]
      simp

/-- A part of a text stands between two positions of it: the numbers of bytes up to the start and up
to the end of the part. -/
lemma exists_pos_of_append {text before part behind : String}
    (h : text = before ++ part ++ behind) :
    ∃ start stop : text.Pos, start ≤ stop ∧ start.offset.byteIdx = before.utf8ByteSize ∧
      stop.offset.byteIdx = before.utf8ByteSize + part.utf8ByteSize ∧
      String.extract start stop = part := by
  have hassoc : text = before ++ (part ++ behind) := by rw [h, String.append_assoc]
  have hstart := String.Pos.splits_ofEqAppend hassoc
  have hstop := String.Pos.splits_ofEqAppend h
  have hle := (hstart.le_iff_exists_eq_append hstop).mpr ⟨part, rfl, rfl⟩
  have hfirst := congrArg String.Pos.Raw.byteIdx hstart.offset_eq_rawEndPos
  have hlast := congrArg String.Pos.Raw.byteIdx hstop.offset_eq_rawEndPos
  rw [String.byteIdx_rawEndPos] at hfirst hlast
  rw [String.utf8ByteSize_append] at hlast
  refine ⟨_, _, hle, hfirst, hlast, ?_⟩
  have hbytes : text.toByteArray =
      before.toByteArray ++ (part.toByteArray ++ behind.toByteArray) := by
    rw [hassoc, String.toByteArray_append, String.toByteArray_append]
  rw [← String.toByteArray_inj, String.toByteArray_extract, hfirst, hlast, hbytes,
    ← String.size_toByteArray, ← String.size_toByteArray]
  have hshift := ByteArray.extract_append_size_add (a := before.toByteArray)
    (b := part.toByteArray ++ behind.toByteArray) (i := 0) (j := part.toByteArray.size)
  rw [Nat.add_zero] at hshift
  rw [hshift]
  exact ByteArray.extract_append_eq_left rfl

end TrackerGuard.Text
