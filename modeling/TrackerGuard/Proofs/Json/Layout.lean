import Mathlib
import TrackerGuard.Proofs.Json.Sequence
import TrackerGuard.Proofs.Json.Value

/-!
# The open layout reads back

A value whose numbers are integers of 64 bits and which is not nested too deep is read back from the
text that the open layout gives it (`readValue_layOut`).  The proof is by induction on the value:
the values inside a list or an object are read back where they stand, and the loops for items and
members do the rest.

The bound of the readers is above the number of items of every list, because each item and each
member takes at least one character of the text.
-/

namespace TrackerGuard.Json

/-! ## The text of lists and objects -/

lemma layOutItems_eq_map (level : Nat) (items : List Json) :
    layOutItems level items = items.map (layOut level) := by
  induction items with
  | nil => rfl
  | cons v items ih => rw [layOutItems, ih, List.map_cons]

/-- What stands behind the name of a member. -/
def memberBody (level : Nat) (e : String × Json) : List Char := ':' :: ' ' :: e.2.layOut level

lemma layOutMembers_eq_map (level : Nat) (members : List (String × Json)) :
    layOutMembers level members = members.map fun e => writeText e.1 ++ memberBody level e := by
  induction members with
  | nil => rfl
  | cons e members ih =>
      obtain ⟨name, v⟩ := e
      rw [layOutMembers, ih, List.map_cons]
      rfl

lemma intercalate_cons_eq_flatMap (line : List Char) (lines : List (List Char)) :
    [','].intercalate (line :: lines) = line ++ lines.flatMap (',' :: ·) := by
  induction lines generalizing line with
  | nil => simp [List.intercalate]
  | cons next lines ih => simp [List.intercalate_cons_cons, ih]

/-- Between any two items stands a comma. -/
lemma length_le_length_intercalate (items : List (List Char)) :
    items.length ≤ ([','].intercalate items).length + 1 := by
  cases items with
  | nil => simp
  | cons x xs =>
      have hle : xs.length ≤ (xs.flatMap (',' :: ·)).length := by
        induction xs with
        | nil => simp
        | cons y ys ih => simp only [List.flatMap_cons, List.length_append, List.length_cons]; omega
      rw [intercalate_cons_eq_flatMap, List.length_append, List.length_cons]
      omega

lemma length_le_length_intercalate_of_mem {x : List Char} {items : List (List Char)}
    (h : x ∈ items) : x.length ≤ ([','].intercalate items).length := by
  cases items with
  | nil => cases h
  | cons y ys =>
      rw [intercalate_cons_eq_flatMap, List.length_append]
      obtain rfl | h := List.mem_cons.mp h
      · omega
      · obtain ⟨front, back, rfl⟩ := List.append_of_mem h
        simp only [List.flatMap_append, List.flatMap_cons, List.length_append, List.length_cons]
        omega

/-- Lines are enclosed with a gap before each of them and one behind the last. -/
lemma enclose_cons (opening closing : Char) (level : Nat) (line : List Char)
    (lines : List (List Char)) :
    enclose opening closing level (line :: lines) =
      opening :: (newLine (level + 1) ++ (line ++
        (lines.flatMap (fun next => ',' :: (newLine (level + 1) ++ next)) ++
          (newLine level ++ [closing])))) := by
  rw [enclose, if_neg (by simp), List.map_cons, intercalate_cons_eq_flatMap, List.flatMap_map]
  simp

/-- There are fewer lines than characters. -/
lemma length_lt_length_enclose (opening closing : Char) (level : Nat) (lines : List (List Char)) :
    lines.length < (enclose opening closing level lines).length := by
  have hle := length_le_length_intercalate (lines.map (newLine (level + 1) ++ ·))
  rw [List.length_map] at hle
  rw [enclose]
  split_ifs with hempty
  · simp [List.isEmpty_iff.mp hempty]
  · simp only [List.length_cons, List.length_append, List.length_nil]
    omega

/-- A line is shorter than what encloses it. -/
lemma length_lt_length_enclose_of_mem {opening closing : Char} {level : Nat} {line : List Char}
    {lines : List (List Char)} (h : line ∈ lines) :
    line.length < (enclose opening closing level lines).length := by
  have hle := length_le_length_intercalate_of_mem
    (List.mem_map_of_mem (f := (newLine (level + 1) ++ ·)) h)
  rw [List.length_append] at hle
  have hempty : ¬ lines.isEmpty := by simpa using List.ne_nil_of_mem h
  rw [enclose, if_neg hempty]
  simp only [List.length_cons, List.length_append, List.length_nil]
  omega

/-! ## Values without an inside -/

section Leaf

variable {list object : Reader Json} {rest : List Char}

lemma readValueWith_null : readValueWith list object ('n' :: 'u' :: 'l' :: 'l' :: rest) =
    .ok (.null, rest) := rfl

lemma readValueWith_writeBool (b : Bool) :
    readValueWith list object (writeBool b ++ rest) = .ok (.bool b, rest) := by
  cases b <;> rfl

/-- A text begins with its quotation mark. -/
lemma skipSpace_writeText (s : String) (rest : List Char) :
    skipSpace (writeText s ++ rest) = '"' :: (s.toList.flatMap escapeChar ++ '"' :: rest) := by
  rw [writeText_append]
  exact skipSpace_append isGap_nil (by decide)

lemma readValueWith_writeText (s : String) :
    readValueWith list object (writeText s ++ rest) = .ok (.text s, rest) := by
  rw [readValueWith, skipSpace_writeText]
  simp [readText_flatMap, Except.map]

/-- An integer begins with a minus or with a digit. -/
lemma exists_writeInt_eq_cons (n : Int) :
    ∃ c cs, writeInt n = c :: cs ∧ (c = '-' ∨ c.isDigit) := by
  by_cases hneg : n < 0
  · exact ⟨'-', Nat.toDigits 10 n.natAbs, by simp [writeInt, hneg], .inl rfl⟩
  · obtain ⟨c, cs, hcs⟩ := List.exists_cons_of_ne_nil
      (Nat.toDigits_ne_nil (b := 10) (n := n.natAbs))
    have hc : c ∈ Nat.toDigits 10 n.natAbs := hcs ▸ List.mem_cons_self
    exact ⟨c, cs, by simp [writeInt, hneg, hcs], .inr (isDigit_of_mem_toDigits hc)⟩

/-- What a number starts with is told apart from everything else that a value starts with. -/
lemma ne_of_startsNumber {c : Char} (h : c = '-' ∨ c.isDigit) :
    isSpace c = false ∧ startsNumber c ∧ c ∉ ['"', '[', ']', '\x7b', 'n', 't', 'f'] := by
  rcases h with rfl | hdigit
  · decide
  · have hne (d : Char) (hd : d.isDigit = false) : c ≠ d := by
      rintro rfl
      rw [hd] at hdigit
      cases hdigit
    refine ⟨?_, by simp [startsNumber, hdigit], ?_⟩
    · simp [isSpace, hne ' ' rfl, hne '\t' rfl, hne '\n' rfl, hne '\r' rfl]
    · simp [hne '"' rfl, hne '[' rfl, hne ']' rfl, hne '\x7b' rfl, hne 'n' rfl, hne 't' rfl,
        hne 'f' rfl]

lemma readValueWith_writeInt {n : Int} (h : InRange n) (hrest : EndsNumber rest) :
    readValueWith list object (writeInt n ++ rest) = .ok (int n, rest) := by
  obtain ⟨c, cs, hcs, hc⟩ := exists_writeInt_eq_cons n
  obtain ⟨hspace, hstart, hne⟩ := ne_of_startsNumber hc
  have hread := readNumber_writeInt h hrest
  have hskip : skipSpace (c :: (cs ++ rest)) = c :: (cs ++ rest) :=
    skipSpace_append isGap_nil hspace
  simp only [List.mem_cons, List.not_mem_nil, or_false, not_or] at hne
  rw [hcs, List.cons_append] at hread ⊢
  rw [readValueWith, hskip]
  simp only [hne, if_false, hstart, if_true, hread, Except.map]
  rfl

end Leaf

lemma readValue_eq_readValueWith (bound depth : Nat) :
    ∃ list object, readValue bound depth = readValueWith list object := by
  cases depth with
  | zero => exact ⟨_, _, rfl⟩
  | succ depth => exact ⟨_, _, rfl⟩

/-- Blanks in front of a value do not matter. -/
lemma readValue_space (bound depth : Nat) (cs : List Char) :
    readValue bound depth (' ' :: cs) = readValue bound depth cs := by
  obtain ⟨list, object, heq⟩ := readValue_eq_readValueWith bound depth
  rw [heq]
  rfl

/-- A value begins with a character that neither is blank nor closes a list. -/
lemma startsItem_layOut {v : Json} (h : IsWhole v) (level : Nat) (rest : List Char) :
    StartsItem (v.layOut level ++ rest) := by
  have hcons {c : Char} {cs : List Char} (hspace : isSpace c = false) (hclosing : c ≠ ']') :
      StartsItem (c :: cs) := ⟨c, cs, rfl, hspace, hclosing⟩
  cases h with
  | null => exact hcons (by decide) (by decide)
  | @bool b => cases b <;> exact hcons (by decide) (by decide)
  | @int n =>
      obtain ⟨c, cs, hcs, hc⟩ := exists_writeInt_eq_cons n
      obtain ⟨hspace, -, hne⟩ := ne_of_startsNumber hc
      have hwritten : (int n).layOut level = c :: cs := hcs
      rw [hwritten]
      exact hcons hspace fun heq => hne (by simp [heq])
  | text => exact hcons (by decide) (by decide)
  | @list items =>
      cases items with
      | nil => exact hcons (by decide) (by decide)
      | cons v items =>
          rw [layOut, layOutItems, enclose_cons]
          exact hcons (by decide) (by decide)
  | @object members =>
      cases members with
      | nil => exact hcons (by decide) (by decide)
      | cons e members =>
          rw [layOut, layOutMembers, enclose_cons]
          exact hcons (by decide) (by decide)

/-! ## Lists and objects -/

section Inside

variable {bound depth level : Nat}

/-- A list is read back when its items are, which are shorter than the list. -/
lemma readItems_layOut {items : List Json} (hwhole : ∀ v ∈ items, IsWhole v)
    (hitem : ∀ v ∈ items, (v.layOut (level + 1)).length < bound → ∀ tail, EndsNumber tail →
      readValue bound depth (v.layOut (level + 1) ++ tail) = .ok (v, tail))
    (hbound : ((list items).layOut level).length < bound) (rest : List Char) :
    ∃ inside, (list items).layOut level ++ rest = '[' :: inside ∧
      readItems bound (readValue bound depth) inside = .ok (items, rest) := by
  rw [layOut, layOutItems_eq_map] at hbound ⊢
  have hcount : items.length < bound := by
    have hlines := length_lt_length_enclose '[' ']' level (items.map (layOut (level + 1)))
    rw [List.length_map] at hlines
    exact hlines.trans hbound
  have hread : ∀ v ∈ items, ∀ tail, EndsNumber tail →
      readValue bound depth (v.layOut (level + 1) ++ tail) = .ok (v, tail) := fun v hv =>
    hitem v hv ((length_lt_length_enclose_of_mem (List.mem_map_of_mem hv)).trans hbound)
  cases items with
  | nil => exact ⟨']' :: rest, rfl, readItems_nil hcount rest⟩
  | cons v items =>
      have hitems := readItems_itemsText (isGap_newLine (level + 1)) (isGap_newLine level)
        (fun w hw => startsItem_layOut (hwhole w hw) (level + 1)) hread hcount rest
      refine ⟨_, ?_, hitems⟩
      rw [List.map_cons, enclose_cons, List.flatMap_map, itemsText]
      simp

/-- An object is read back when the values of its members are, which are shorter than it. -/
lemma readMembers_layOut {members : Dictionary Json} (hsorted : members.Sorted)
    (hmember : ∀ e ∈ members, (e.2.layOut (level + 1)).length < bound → ∀ tail, EndsNumber tail →
      readValue bound depth (e.2.layOut (level + 1) ++ tail) = .ok (e.2, tail))
    (hbound : ((object members).layOut level).length < bound) (rest : List Char) :
    ∃ inside, (object members).layOut level ++ rest = '\x7b' :: inside ∧
      readMembers bound (readEntry (readValue bound depth)) [] inside = .ok (members, rest) := by
  rw [layOut, layOutMembers_eq_map] at hbound ⊢
  let line (e : String × Json) : List Char := writeText e.1 ++ memberBody (level + 1) e
  have hcount : members.length < bound := by
    have hlines := length_lt_length_enclose '\x7b' '\x7d' level (members.map line)
    rw [List.length_map] at hlines
    exact hlines.trans hbound
  have hread : ∀ e ∈ members, ∀ (acc : Dictionary Json) (tail : List Char), EndsNumber tail →
      readEntry (readValue bound depth) acc e.1 (memberBody (level + 1) e ++ tail) =
        .ok (acc.insert e.1 e.2, tail) := by
    intro e he acc tail htail
    have hshort : (e.2.layOut (level + 1)).length < (line e).length := by
      simp only [line, memberBody, List.length_append, List.length_cons]
      omega
    have hline :
        (line e).length < (enclose '\x7b' '\x7d' level (members.map line)).length :=
      length_lt_length_enclose_of_mem (List.mem_map_of_mem he)
    have hvalue := hmember e he (hshort.trans (hline.trans hbound)) tail htail
    have hcolon : readColon (memberBody (level + 1) e ++ tail) =
        .ok ((), ' ' :: (e.2.layOut (level + 1) ++ tail)) :=
      readClosing_append isGap_nil (by decide) _
    rw [readEntry, hcolon]
    simp only [bind, Except.bind, readValue_space, hvalue]
    rfl
  have hself : members.foldl (fun (acc : Dictionary Json) e => acc.insert e.1 e.2) [] = members :=
    Dictionary.ofList_eq_self hsorted
  cases members with
  | nil => exact ⟨'\x7d' :: rest, rfl, readMembers_nil hcount [] rest⟩
  | cons e members =>
      have hmembers := readMembers_membersText (isGap_newLine (level + 1)) (isGap_newLine level)
        (.of_forall hread []) hcount rest
      rw [hself] at hmembers
      refine ⟨_, ?_, hmembers⟩
      rw [List.map_cons, enclose_cons, List.flatMap_map, membersText]
      simp

end Inside

/-! ## Any value -/

/-- A value is read back from its open layout, and what follows it is left. -/
theorem readValue_layOut {bound depth : Nat} {v : Json} (hfits : Fits depth v) (hwhole : IsWhole v)
    (level : Nat) (hbound : (v.layOut level).length < bound) {rest : List Char}
    (hrest : EndsNumber rest) : readValue bound depth (v.layOut level ++ rest) = .ok (v, rest) := by
  induction hfits generalizing level rest with
  | @null depth =>
      obtain ⟨list, object, heq⟩ := readValue_eq_readValueWith bound depth
      rw [heq]
      exact readValueWith_null
  | @bool depth b =>
      obtain ⟨list, object, heq⟩ := readValue_eq_readValueWith bound depth
      rw [heq]
      exact readValueWith_writeBool b
  | @number depth n =>
      obtain ⟨list, object, heq⟩ := readValue_eq_readValueWith bound depth
      cases hwhole with
      | int inRange =>
          rw [heq]
          exact readValueWith_writeInt inRange hrest
  | @text depth s =>
      obtain ⟨list, object, heq⟩ := readValue_eq_readValueWith bound depth
      rw [heq]
      exact readValueWith_writeText s
  | @list depth items inside ih =>
      cases hwhole with
      | list hwhole =>
          obtain ⟨text, htext, hitems⟩ := readItems_layOut hwhole
            (fun v hv hshort tail => ih v hv (hwhole v hv) (level + 1) hshort) hbound rest
          rw [htext]
          change Except.map _ (readItems bound (readValue bound depth) text) = _
          rw [hitems]
          rfl
  | @object depth members sorted inside ih =>
      cases hwhole with
      | object hwhole =>
          obtain ⟨text, htext, hmembers⟩ := readMembers_layOut sorted
            (fun e he hshort tail => ih e he (hwhole e he) (level + 1) hshort) hbound rest
          rw [htext]
          change Except.map _ (readMembers bound (readEntry (readValue bound depth)) [] text) = _
          rw [hmembers]
          rfl

/-- A document that holds an object is read back as a dictionary. -/
theorem readWhole_pretty {members : Dictionary Json} {depth : Nat}
    (hfits : Fits (depth + 1) (.object members)) (hwhole : ∀ e ∈ members, IsWhole e.2) :
    readWhole (dictionary · (depth + 1)) (object members).pretty = .ok members := by
  cases hfits with
  | object sorted inside =>
      have hends : EndsNumber [] := by simp [EndsNumber]
      have hbound : ((object members).layOut 0).length < ((object members).layOut 0).length + 1 :=
        Nat.lt_succ_self _
      obtain ⟨text, htext, hmembers⟩ := readMembers_layOut sorted
        (fun e he hshort tail => readValue_layOut (inside e he) (hwhole e he) 1 hshort) hbound []
      rw [List.append_nil] at htext
      have hread : dictionary (((object members).layOut 0).length + 1) (depth + 1)
          ((object members).layOut 0) = .ok (members, []) := by
        rw [htext] at hmembers ⊢
        exact hmembers
      simp only [readWhole, pretty, String.toList_ofList, hread]
      rfl

end TrackerGuard.Json
