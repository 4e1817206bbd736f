import Mathlib
import TrackerGuard.Proofs.Json.Token

/-!
# Lists and objects read back

Lists and objects are read by loops that know neither how their text is laid out nor what stands
inside.  For the loops a list is its written items, each behind a comma and a gap of blanks, and a
further gap before the closing bracket; an object is the same with names in front of the values.

So the two loops are followed once, for items and for members whose readers read back what was
written of them (`readItems_itemsText`, `readMembers_membersText`).  Their bound is not met as long
as it is above the number of items or members.
-/

namespace TrackerGuard.Json

variable {α σ : Type}

/-! ## Gaps -/

/-- Blanks between the parts of a text. -/
def IsGap (gap : List Char) : Prop := ∀ c ∈ gap, isSpace c

lemma isGap_nil : IsGap [] := by
  simp [IsGap]

lemma isGap_newLine (level : Nat) : IsGap (newLine level) := by
  intro c hc
  rcases List.mem_cons.mp hc with rfl | hc
  · rfl
  · obtain rfl := List.eq_of_mem_replicate hc
    rfl

/-- Blanks are passed over up to the first other character. -/
lemma skipSpace_append {gap rest : List Char} {c : Char} (hgap : IsGap gap)
    (hc : isSpace c = false) : skipSpace (gap ++ c :: rest) = c :: rest := by
  rw [skipSpace, List.dropWhile_append_of_pos hgap, List.dropWhile_cons_of_neg (by simp [hc])]

lemma readClosing_append {gap : List Char} {closing : Char} (hgap : IsGap gap)
    (hclosing : isSpace closing = false) (rest : List Char) :
    readClosing closing (gap ++ closing :: rest) = .ok ((), rest) := by
  rw [readClosing, skipSpace_append hgap hclosing]
  simp

/-- A number ends where a gap, a comma or a bracket follows. -/
lemma endsNumber_append {gap : List Char} {c : Char} (hgap : IsGap gap)
    (hc : c ∈ [',', ']', '\x7d']) (rest : List Char) : EndsNumber (gap ++ c :: rest) := by
  have hends : ∀ d : Char, isSpace d = true ∨ d ∈ [',', ']', '\x7d'] →
      d.isDigit = false ∧ d ≠ '.' ∧ d ≠ 'e' ∧ d ≠ 'E' := by
    intro d hd
    simp only [isSpace, Bool.or_eq_true, beq_iff_eq, List.mem_cons, List.not_mem_nil,
      or_false] at hd
    rcases hd with (((rfl | rfl) | rfl) | rfl) | rfl | rfl | rfl <;> decide
  intro d hd
  cases gap with
  | nil =>
      obtain rfl : c = d := by simpa using hd
      exact hends c (.inr hc)
  | cons b gap =>
      obtain rfl : b = d := by simpa using hd
      exact hends b (.inl (hgap b List.mem_cons_self))

/-! ## Items -/

/-- What is written of an item begins with a character that neither is blank nor closes a list. -/
def StartsItem (text : List Char) : Prop :=
  ∃ c rest, text = c :: rest ∧ isSpace c = false ∧ c ≠ ']'

lemma nextItem?_first {gap text : List Char} (hgap : IsGap gap) (htext : StartsItem text) :
    nextItem? true (gap ++ text) = .ok (some text) := by
  obtain ⟨c, rest, rfl, hspace, hclosing⟩ := htext
  rw [nextItem?, skipSpace_append hgap hspace]
  simp [hclosing]

lemma nextItem?_comma {gap text : List Char} (hgap : IsGap gap) (htext : StartsItem text) :
    nextItem? false (',' :: (gap ++ text)) = .ok (some text) := by
  obtain ⟨c, rest, rfl, hspace, hclosing⟩ := htext
  have hcomma : skipSpace (',' :: (gap ++ c :: rest)) = ',' :: (gap ++ c :: rest) :=
    skipSpace_append isGap_nil (by decide)
  rw [nextItem?, hcomma]
  simp [skipSpace_append hgap hspace, hclosing]

lemma nextItem?_closing {gap : List Char} (hgap : IsGap gap) (first : Bool) (rest : List Char) :
    nextItem? first (gap ++ ']' :: rest) = .ok none := by
  rw [nextItem?, skipSpace_append hgap (by decide)]
  simp

/-- Items behind commas, up to the closing bracket of their list. -/
def itemsText (write : α → List Char) (gap last : List Char) (xs : List α) (rest : List Char) :
    List Char :=
  xs.flatMap (fun x => ',' :: (gap ++ write x)) ++ (last ++ ']' :: rest)

section Items

variable {item : Reader α} {write : α → List Char} {gap last : List Char}

lemma endsNumber_itemsText (hlast : IsGap last) (xs : List α) (rest : List Char) :
    EndsNumber (itemsText write gap last xs rest) := by
  cases xs with
  | nil => exact endsNumber_append hlast (by simp) rest
  | cons x xs => exact endsNumber_append isGap_nil (by simp) _

/-- Items are read back that follow others. -/
lemma readItemsFrom_itemsText (hgap : IsGap gap) (hlast : IsGap last) {xs : List α}
    (hstart : ∀ x ∈ xs, ∀ tail, StartsItem (write x ++ tail))
    (hitem : ∀ x ∈ xs, ∀ tail, EndsNumber tail → item (write x ++ tail) = .ok (x, tail))
    {bound : Nat} (hbound : xs.length < bound) (out : List α) (rest : List Char) :
    readItemsFrom item bound false out (itemsText write gap last xs rest) =
      .ok (out.reverse ++ xs, rest) := by
  induction xs generalizing bound out with
  | nil =>
      obtain ⟨bound, rfl⟩ := Nat.exists_eq_add_one_of_ne_zero (Nat.ne_zero_of_lt hbound)
      have hclosing : readClosing ']' (last ++ ']' :: rest) = .ok ((), rest) :=
        readClosing_append hlast (by decide) rest
      have hnext := nextItem?_closing hlast false rest
      have htext : itemsText write gap last [] rest = last ++ ']' :: rest := rfl
      rw [htext, readItemsFrom, hnext]
      simp [bind, Except.bind, pure, Except.pure, hclosing]
  | cons x xs ih =>
      obtain ⟨bound, rfl⟩ := Nat.exists_eq_add_one_of_ne_zero (Nat.ne_zero_of_lt hbound)
      have htext : itemsText write gap last (x :: xs) rest =
          ',' :: (gap ++ (write x ++ itemsText write gap last xs rest)) := by
        simp [itemsText]
      have hnext := nextItem?_comma hgap
        (hstart x List.mem_cons_self (itemsText write gap last xs rest))
      have hread := hitem x List.mem_cons_self (itemsText write gap last xs rest)
        (endsNumber_itemsText hlast xs rest)
      have hrest := ih (fun y hy => hstart y (List.mem_cons_of_mem _ hy))
        (fun y hy => hitem y (List.mem_cons_of_mem _ hy)) (Nat.lt_of_succ_lt_succ hbound) (x :: out)
      rw [htext, readItemsFrom, hnext]
      simp only [bind, Except.bind, hread]
      rw [hrest]
      simp

/-- The items of a list that is not empty are read back. -/
lemma readItems_itemsText (hgap : IsGap gap) (hlast : IsGap last) {x : α} {xs : List α}
    (hstart : ∀ y ∈ x :: xs, ∀ tail, StartsItem (write y ++ tail))
    (hitem : ∀ y ∈ x :: xs, ∀ tail, EndsNumber tail → item (write y ++ tail) = .ok (y, tail))
    {bound : Nat} (hbound : (x :: xs).length < bound) (rest : List Char) :
    readItems bound item (gap ++ (write x ++ itemsText write gap last xs rest)) =
      .ok (x :: xs, rest) := by
  obtain ⟨bound, rfl⟩ := Nat.exists_eq_add_one_of_ne_zero (Nat.ne_zero_of_lt hbound)
  have hnext := nextItem?_first hgap
    (hstart x List.mem_cons_self (itemsText write gap last xs rest))
  have hread := hitem x List.mem_cons_self (itemsText write gap last xs rest)
        (endsNumber_itemsText hlast xs rest)
  have hrest := readItemsFrom_itemsText hgap hlast
    (fun y hy => hstart y (List.mem_cons_of_mem _ hy))
    (fun y hy => hitem y (List.mem_cons_of_mem _ hy)) (Nat.lt_of_succ_lt_succ hbound) [x] rest
  rw [readItems, readItemsFrom, hnext]
  simp only [bind, Except.bind, hread]
  exact hrest

/-- A list without items is read back. -/
lemma readItems_nil {bound : Nat} (hbound : 0 < bound) (rest : List Char) :
    readItems bound item (']' :: rest) = .ok ([], rest) := by
  obtain ⟨bound, rfl⟩ := Nat.exists_eq_add_one_of_ne_zero (Nat.ne_zero_of_lt hbound)
  rfl

end Items

/-! ## Members -/

lemma nextName?_first {gap : List Char} (hgap : IsGap gap) (name : String) (rest : List Char) :
    nextName? true (gap ++ (writeText name ++ rest)) = .ok (some name, rest) := by
  rw [nextName?, writeText_append, skipSpace_append hgap (by decide)]
  simp [readText_flatMap, Except.map]

lemma nextName?_comma {gap : List Char} (hgap : IsGap gap) (name : String) (rest : List Char) :
    nextName? false (',' :: (gap ++ (writeText name ++ rest))) = .ok (some name, rest) := by
  let inside := name.toList.flatMap escapeChar ++ '"' :: rest
  have hcomma : skipSpace (',' :: (gap ++ '"' :: inside)) = ',' :: (gap ++ '"' :: inside) :=
    skipSpace_append isGap_nil (by decide)
  have hname : skipSpace (gap ++ '"' :: inside) = '"' :: inside :=
    skipSpace_append hgap (by decide)
  rw [nextName?, writeText_append, hcomma]
  simp [hname, inside, readText_flatMap, Except.map]

lemma nextName?_closing {gap : List Char} (hgap : IsGap gap) (first : Bool) (rest : List Char) :
    nextName? first (gap ++ '\x7d' :: rest) = .ok (none, '\x7d' :: rest) := by
  rw [nextName?, skipSpace_append hgap (by decide)]
  simp

/-- Members behind commas, up to the closing brace of their object.  `body` is what is written of a
member behind its name. -/
def membersText (body : String × α → List Char) (gap last : List Char) (members : List (String × α))
    (rest : List Char) : List Char :=
  members.flatMap (fun e => ',' :: (gap ++ (writeText e.1 ++ body e))) ++ (last ++ '\x7d' :: rest)

section Members

variable {member : σ → String → Reader σ} {body : String × α → List Char} {gap last : List Char}

lemma endsNumber_membersText (hlast : IsGap last) (members : List (String × α))
    (rest : List Char) : EndsNumber (membersText body gap last members rest) := by
  cases members with
  | nil => exact endsNumber_append hlast (by simp) rest
  | cons e members => exact endsNumber_append isGap_nil (by simp) _

/-- Members that are read one after another, each from what the ones before it came to. -/
inductive MembersRead (member : σ → String → Reader σ) (body : String × α → List Char) :
    σ → List (String × α) → σ → Prop where
  | nil {acc : σ} : MembersRead member body acc [] acc
  | cons {acc next result : σ} {e : String × α} {members : List (String × α)}
      (first : ∀ tail, EndsNumber tail → member acc e.1 (body e ++ tail) = .ok (next, tail))
      (others : MembersRead member body next members result) :
      MembersRead member body acc (e :: members) result

namespace MembersRead

variable {acc mid result : σ} {members : List (String × α)}

lemma append {others : List (String × α)} (h : MembersRead member body acc members mid)
    (hothers : MembersRead member body mid others result) :
    MembersRead member body acc (members ++ others) result := by
  induction h with
  | nil => exact hothers
  | cons first _ ih => exact .cons first (ih hothers)

/-- Members that may stand in any order. -/
lemma of_forall {next : σ → String × α → σ}
    (h : ∀ e ∈ members, ∀ acc tail, EndsNumber tail →
      member acc e.1 (body e ++ tail) = .ok (next acc e, tail)) (acc : σ) :
    MembersRead member body acc members (members.foldl next acc) := by
  induction members generalizing acc with
  | nil => exact .nil
  | cons e members ih =>
      exact .cons (h e List.mem_cons_self acc)
        (ih (fun d hd => h d (List.mem_cons_of_mem _ hd)) (next acc e))

end MembersRead

/-- Members are read back that follow others. -/
lemma readMembersFrom_membersText (hgap : IsGap gap) (hlast : IsGap last)
    {members : List (String × α)} {acc result : σ}
    (hread : MembersRead member body acc members result) {bound : Nat}
    (hbound : members.length < bound) (rest : List Char) :
    readMembersFrom member bound false acc (membersText body gap last members rest) =
      .ok (result, rest) := by
  induction hread generalizing bound with
  | nil =>
      obtain ⟨bound, rfl⟩ := Nat.exists_eq_add_one_of_ne_zero (Nat.ne_zero_of_lt hbound)
      have hclosing : readClosing '\x7d' ('\x7d' :: rest) = .ok ((), rest) :=
        readClosing_append isGap_nil (by decide) rest
      have hnext := nextName?_closing hlast false rest
      have htext : membersText body gap last [] rest = last ++ '\x7d' :: rest := rfl
      rw [htext, readMembersFrom, hnext]
      simp [bind, Except.bind, pure, Except.pure, hclosing]
  | @cons acc next result e members first _ ih =>
      obtain ⟨bound, rfl⟩ := Nat.exists_eq_add_one_of_ne_zero (Nat.ne_zero_of_lt hbound)
      have htext : membersText body gap last (e :: members) rest =
          ',' ::
            (gap ++ (writeText e.1 ++ (body e ++ membersText body gap last members rest))) := by
        simp [membersText]
      have hnext := nextName?_comma hgap e.1 (body e ++ membersText body gap last members rest)
      have hread := first (membersText body gap last members rest)
        (endsNumber_membersText hlast members rest)
      rw [htext, readMembersFrom, hnext]
      simp only [bind, Except.bind, hread]
      exact ih (Nat.lt_of_succ_lt_succ hbound)

/-- The members of an object that is not empty are read back. -/
lemma readMembers_membersText (hgap : IsGap gap) (hlast : IsGap last) {e : String × α}
    {members : List (String × α)} {start result : σ}
    (hread : MembersRead member body start (e :: members) result) {bound : Nat}
    (hbound : (e :: members).length < bound) (rest : List Char) :
    readMembers bound member start
        (gap ++ (writeText e.1 ++ (body e ++ membersText body gap last members rest))) =
      .ok (result, rest) := by
  obtain ⟨bound, rfl⟩ := Nat.exists_eq_add_one_of_ne_zero (Nat.ne_zero_of_lt hbound)
  cases hread with
  | @cons _ mid _ _ _ first others =>
      have hnext := nextName?_first hgap e.1 (body e ++ membersText body gap last members rest)
      have hfirst := first (membersText body gap last members rest)
        (endsNumber_membersText hlast members rest)
      rw [readMembers, readMembersFrom, hnext]
      simp only [bind, Except.bind, hfirst]
      exact readMembersFrom_membersText hgap hlast others (Nat.lt_of_succ_lt_succ hbound) rest

/-- An object without members is read back. -/
lemma readMembers_nil {bound : Nat} (hbound : 0 < bound) (start : σ) (rest : List Char) :
    readMembers bound member start ('\x7d' :: rest) = .ok (start, rest) := by
  obtain ⟨bound, rfl⟩ := Nat.exists_eq_add_one_of_ne_zero (Nat.ne_zero_of_lt hbound)
  rfl

end Members

end TrackerGuard.Json
