import Mathlib
import TrackerGuard.Json.Shape
import TrackerGuard.Proofs.Text.Dictionary

/-!
# What is read

Two things may keep a value from being written and read back.  It may be nested too deep, and it may
hold a number that is no integer: such a number is a double, and reading rounds a second time.

`Fits` is about the first: the lists and objects of the value are nested so deep at most, and the
members of its objects are a dictionary.  Whatever is read fits the depth that it was read with
(`fits_of_readValue`), so values that come out of a text need not be checked again.  `IsWhole` is
about the second: all numbers of the value are integers of 64 bits.
-/

namespace TrackerGuard.Json

/-- A value whose lists and objects are nested `depth` deep at most, and whose objects have their
members in order. -/
inductive Fits : (depth : Nat) → Json → Prop where
  | null {depth : Nat} : Fits depth .null
  | bool {depth : Nat} {b : Bool} : Fits depth (.bool b)
  | number {depth : Nat} {n : Number} : Fits depth (.number n)
  | text {depth : Nat} {s : String} : Fits depth (.text s)
  | list {depth : Nat} {items : List Json} (inside : ∀ v ∈ items, Fits depth v) :
      Fits (depth + 1) (.list items)
  | object {depth : Nat} {members : Dictionary Json} (sorted : members.Sorted)
      (inside : ∀ e ∈ members, Fits depth e.2) : Fits (depth + 1) (.object members)

/-- A value all of whose numbers are integers of 64 bits. -/
inductive IsWhole : Json → Prop where
  | null : IsWhole .null
  | bool {b : Bool} : IsWhole (.bool b)
  | int {n : Int} (inRange : InRange n) : IsWhole (int n)
  | text {s : String} : IsWhole (.text s)
  | list {items : List Json} (inside : ∀ v ∈ items, IsWhole v) : IsWhole (.list items)
  | object {members : Dictionary Json} (inside : ∀ e ∈ members, IsWhole e.2) :
      IsWhole (.object members)

lemma fits_texts (depth : Nat) (xs : List String) : Fits (depth + 1) (texts xs) := by
  refine .list fun v hv => ?_
  obtain ⟨s, -, rfl⟩ := List.mem_map.mp hv
  exact .text

lemma isWhole_texts (xs : List String) : IsWhole (texts xs) := by
  refine .list fun v hv => ?_
  obtain ⟨s, -, rfl⟩ := List.mem_map.mp hv
  exact .text

/-! ## Readers in sequence -/

section Sequence

variable {α β : Type} {x : Except Fault α} {f : α → Except Fault β} {g : α → β} {b : β}

lemma bind_eq_ok (h : x >>= f = .ok b) : ∃ a, x = .ok a ∧ f a = .ok b := by
  cases x with
  | error => cases h
  | ok a => exact ⟨a, rfl, h⟩

lemma map_eq_ok (h : x.map g = .ok b) : ∃ a, x = .ok a ∧ g a = b := by
  cases x with
  | error => cases h
  | ok a => exact ⟨a, rfl, Except.ok.inj h⟩

end Sequence

/-- What is true of every item that a reader gives is true of all items of a list. -/
lemma forall_mem_of_readItemsFrom {α : Type} {item : Reader α} {q : α → Prop}
    (hitem : ∀ cs x rest, item cs = .ok (x, rest) → q x) {bound : Nat} {first : Bool}
    {out xs : List α} {cs rest : List Char} (hout : ∀ x ∈ out, q x)
    (h : readItemsFrom item bound first out cs = .ok (xs, rest)) : ∀ x ∈ xs, q x := by
  induction bound generalizing first out cs with
  | zero => cases h
  | succ bound ih =>
      obtain ⟨next, -, h⟩ := bind_eq_ok h
      cases next with
      | none =>
          obtain ⟨⟨⟨⟩, rest'⟩, -, h⟩ := bind_eq_ok h
          obtain ⟨rfl, -⟩ := Prod.mk.inj (Except.ok.inj h)
          simpa using hout
      | some cs' =>
          obtain ⟨⟨x, rest'⟩, hx, h⟩ := bind_eq_ok h
          refine ih ?_ h
          intro y hy
          rcases List.mem_cons.mp hy with rfl | hy
          · exact hitem _ _ _ hx
          · exact hout y hy

/-- What the reader of a member keeps true is true of an object when it was true of its start. -/
lemma of_readMembersFrom {σ : Type} {member : σ → String → Reader σ} {q : σ → Prop}
    (hmember : ∀ acc name cs acc' rest, q acc → member acc name cs = .ok (acc', rest) → q acc')
    {bound : Nat} {first : Bool} {start result : σ} {cs rest : List Char} (hstart : q start)
    (h : readMembersFrom member bound first start cs = .ok (result, rest)) : q result := by
  induction bound generalizing first start cs with
  | zero => cases h
  | succ bound ih =>
      obtain ⟨⟨name, cs'⟩, -, h⟩ := bind_eq_ok h
      cases name with
      | none =>
          obtain ⟨⟨⟨⟩, rest'⟩, -, h⟩ := bind_eq_ok h
          obtain ⟨rfl, -⟩ := Prod.mk.inj (Except.ok.inj h)
          exact hstart
      | some name =>
          obtain ⟨⟨acc, rest'⟩, hacc, h⟩ := bind_eq_ok h
          exact ih (hmember _ _ _ _ _ hstart hacc) h

/-! ## Values -/

/-- A value is a list or an object that was read by the reader for its inside, or has no inside. -/
lemma readValueWith_cases {list object : Reader Json} {cs rest : List Char} {v : Json}
    (h : readValueWith list object cs = .ok (v, rest)) :
    (∃ inside, list inside = .ok (v, rest)) ∨ (∃ inside, object inside = .ok (v, rest)) ∨
      ∀ depth, Fits depth v := by
  unfold readValueWith at h
  split at h
  · cases h
  · split_ifs at h
    · obtain ⟨⟨s, cs⟩, -, h⟩ := map_eq_ok h
      obtain ⟨rfl, -⟩ := Prod.mk.inj h
      exact .inr (.inr fun _ => .text)
    · exact .inl ⟨_, h⟩
    · exact .inr (.inl ⟨_, h⟩)
    · obtain ⟨cs, -, h⟩ := map_eq_ok h
      obtain ⟨rfl, -⟩ := Prod.mk.inj h
      exact .inr (.inr fun _ => .null)
    · obtain ⟨cs, -, h⟩ := map_eq_ok h
      obtain ⟨rfl, -⟩ := Prod.mk.inj h
      exact .inr (.inr fun _ => .bool)
    · obtain ⟨cs, -, h⟩ := map_eq_ok h
      obtain ⟨rfl, -⟩ := Prod.mk.inj h
      exact .inr (.inr fun _ => .bool)
    · obtain ⟨⟨n, cs⟩, -, h⟩ := map_eq_ok h
      obtain ⟨rfl, -⟩ := Prod.mk.inj h
      exact .inr (.inr fun _ => .number)

/-- The members that are read are a dictionary of what is true of the values that are read. -/
lemma sorted_and_forall_of_readMembers {α : Type} {value : Reader α} {q : α → Prop}
    (hvalue : ∀ cs x rest, value cs = .ok (x, rest) → q x) {bound : Nat} {cs rest : List Char}
    {members : Dictionary α} (h : readMembers bound (readEntry value) [] cs = .ok (members, rest)) :
    members.Sorted ∧ ∀ e ∈ members, q e.2 := by
  have hnil : Dictionary.Sorted ([] : Dictionary α) ∧ ∀ e ∈ ([] : Dictionary α), q e.2 :=
    ⟨List.Pairwise.nil, by simp⟩
  refine of_readMembersFrom (q := fun d => Dictionary.Sorted d ∧ ∀ e ∈ d, q e.2) ?_ hnil h
  intro acc name cs acc' rest' hacc hread
  obtain ⟨⟨⟨⟩, behind⟩, -, hread⟩ := bind_eq_ok hread
  obtain ⟨⟨x, after⟩, hx, hread⟩ := bind_eq_ok hread
  obtain ⟨rfl, -⟩ := Prod.mk.inj (Except.ok.inj hread)
  refine ⟨hacc.1.insert name x, ?_⟩
  intro e he
  rcases Dictionary.mem_insert he with rfl | he
  · exact hvalue _ _ _ hx
  · exact hacc.2 e he

/-- What is read fits the depth that it was read with. -/
theorem fits_of_readValue {bound depth : Nat} {cs rest : List Char} {v : Json}
    (h : readValue bound depth cs = .ok (v, rest)) : Fits depth v := by
  induction depth generalizing cs rest v with
  | zero =>
      rcases readValueWith_cases h with ⟨inside, hlist⟩ | ⟨inside, hobject⟩ | hfits
      · cases hlist
      · cases hobject
      · exact hfits 0
  | succ depth ih =>
      rcases readValueWith_cases h with ⟨inside, hlist⟩ | ⟨inside, hobject⟩ | hfits
      · obtain ⟨⟨items, rest'⟩, hitems, hv⟩ := map_eq_ok hlist
        obtain ⟨rfl, -⟩ := Prod.mk.inj hv
        refine .list (forall_mem_of_readItemsFrom (fun _ _ _ => ih) ?_ hitems)
        simp
      · obtain ⟨⟨members, rest'⟩, hmembers, hv⟩ := map_eq_ok hobject
        obtain ⟨rfl, -⟩ := Prod.mk.inj hv
        obtain ⟨hsorted, hinside⟩ :=
          sorted_and_forall_of_readMembers (fun _ _ _ => ih) hmembers
        exact .object hsorted hinside
      · exact hfits (depth + 1)

/-- The values of a dictionary that is read fit one level less. -/
lemma sorted_and_fits_of_dictionary {bound depth : Nat} {cs rest : List Char}
    {members : Dictionary Json} (h : dictionary bound (depth + 1) cs = .ok (members, rest)) :
    members.Sorted ∧ ∀ e ∈ members, Fits depth e.2 := by
  simp only [dictionary] at h
  split at h
  · next hdepth =>
      obtain rfl := Nat.succ.inj hdepth
      exact sorted_and_forall_of_readMembers (fun _ _ _ => fits_of_readValue) h
  · cases h
  · cases h

/-- What a document is read to is read from its start. -/
lemma exists_of_readWhole {α : Type} {reader : (bound : Nat) → Reader α} {text : String} {x : α}
    (h : readWhole reader text = .ok x) :
    ∃ bound rest, reader bound text.toList = .ok (x, rest) := by
  obtain ⟨⟨y, rest⟩, hread, h⟩ := bind_eq_ok h
  change (if (skipSpace rest).isEmpty then .ok y else .error Fault.malformed) = Except.ok x at h
  split_ifs at h
  obtain rfl := Except.ok.inj h
  exact ⟨_, rest, hread⟩

end TrackerGuard.Json
