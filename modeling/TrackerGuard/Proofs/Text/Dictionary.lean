import Mathlib
import TrackerGuard.Text.Dictionary

/-!
# Dictionaries in order

The entries of a dictionary stand in strictly ascending order of their keys, and stay so when an
entry is put in or taken out.  Dictionaries in order are equal as soon as the same is found under
each key (`Sorted.ext`).  A key above all others goes to the end, so a dictionary is made again of
its own entries, put in one after another (`ofList_eq_self`).
-/

namespace TrackerGuard.Dictionary

variable {α : Type} {d : Dictionary α} {key : String} {value : α}

/-- Putting an entry in adds no other. -/
lemma mem_insert {e : String × α} (h : e ∈ d.insert key value) : e = (key, value) ∨ e ∈ d := by
  induction d with
  | nil => exact .inl (List.mem_singleton.mp h)
  | cons first rest ih =>
      obtain ⟨k, v⟩ := first
      unfold insert at h
      split_ifs at h with hbefore heq
      · exact List.mem_cons.mp h
      · rcases List.mem_cons.mp h with hnew | hrest
        · exact .inl hnew
        · exact .inr (List.mem_cons_of_mem _ hrest)
      · rcases List.mem_cons.mp h with hfirst | hrest
        · exact .inr (List.mem_cons.mpr (.inl hfirst))
        · exact (ih hrest).imp_right (List.mem_cons_of_mem _)

lemma Sorted.insert (h : d.Sorted) (key : String) (value : α) : (d.insert key value).Sorted := by
  induction d with
  | nil => exact List.pairwise_singleton _ _
  | cons first rest ih =>
      obtain ⟨k, v⟩ := first
      obtain ⟨hfirst, hrest⟩ := List.pairwise_cons.mp h
      unfold Dictionary.insert
      split_ifs with hbefore heq
      · refine List.pairwise_cons.mpr ⟨?_, h⟩
        intro e he
        rcases List.mem_cons.mp he with rfl | he
        · exact hbefore
        · exact hbefore.trans (hfirst e he)
      · subst heq
        exact List.pairwise_cons.mpr ⟨hfirst, hrest⟩
      · refine List.pairwise_cons.mpr ⟨?_, ih hrest⟩
        intro e he
        rcases mem_insert he with rfl | he
        · exact lt_of_le_of_ne (not_lt.mp hbefore) heq
        · exact hfirst e he

lemma Sorted.erase (h : d.Sorted) (key : String) : (d.erase key).Sorted :=
  h.filter _

lemma mem_erase {e : String × α} (h : e ∈ d.erase key) : e ∈ d :=
  List.mem_of_mem_filter h

lemma Sorted.restore (h : d.Sorted) (key : String) (previous : Option α) :
    (d.restore key previous).Sorted := by
  cases previous with
  | none => exact h.erase key
  | some value => exact h.insert key value

/-- Nothing is found under a key below all others. -/
lemma find?_eq_none (h : ∀ e ∈ d, key < e.1) : d.find? key = none := by
  induction d with
  | nil => rfl
  | cons first rest ih =>
      obtain ⟨k, v⟩ := first
      have hk : key < k := h _ List.mem_cons_self
      rw [find?, if_neg hk.ne', ih fun e he => h e (List.mem_cons_of_mem _ he)]

/-- What is found in a dictionary lies under no key below the first one. -/
lemma Sorted.head_le {k : String} {v : α} {rest : Dictionary α}
    (h : Sorted ((k, v) :: rest)) (hfind : Dictionary.find? key ((k, v) :: rest) ≠ none) :
    k ≤ key := by
  by_contra hlt
  refine hfind (find?_eq_none fun e he => ?_)
  rcases List.mem_cons.mp he with rfl | he
  · exact not_le.mp hlt
  · exact (not_le.mp hlt).trans ((List.pairwise_cons.mp h).1 e he)

/-- Dictionaries in order are equal when the same is found under each key. -/
theorem Sorted.ext {d' : Dictionary α} (h : d.Sorted) (h' : d'.Sorted)
    (hfind : ∀ key, d.find? key = d'.find? key) : d = d' := by
  induction d generalizing d' with
  | nil =>
      cases d' with
      | nil => rfl
      | cons first' rest' =>
          obtain ⟨k', v'⟩ := first'
          have hnone := hfind k'
          simp [find?] at hnone
  | cons first rest ih =>
      obtain ⟨k, v⟩ := first
      obtain ⟨hfirst, hrest⟩ := List.pairwise_cons.mp h
      cases d' with
      | nil =>
          have hnone := hfind k
          simp [find?] at hnone
      | cons first' rest' =>
          obtain ⟨k', v'⟩ := first'
          obtain ⟨hfirst', hrest'⟩ := List.pairwise_cons.mp h'
          have hle : k' ≤ k := by
            refine h'.head_le ?_
            rw [← hfind k, find?, if_pos rfl]
            exact Option.some_ne_none v
          have hge : k ≤ k' := by
            refine h.head_le ?_
            rw [hfind k', find?, if_pos rfl]
            exact Option.some_ne_none v'
          obtain rfl : k = k' := le_antisymm hge hle
          have hvalue := hfind k
          rw [find?, if_pos rfl, find?, if_pos rfl] at hvalue
          obtain rfl := Option.some.inj hvalue
          have htail : rest = rest' := by
            refine ih hrest hrest' fun key => ?_
            by_cases hkey : k = key
            · subst hkey
              rw [find?_eq_none hfirst, find?_eq_none hfirst']
            · have hsame := hfind key
              rwa [find?, if_neg hkey, find?, if_neg hkey] at hsame
          rw [htail]

/-- A key above all others goes to the end. -/
lemma insert_eq_concat (h : ∀ e ∈ d, e.1 < key) : d.insert key value = d ++ [(key, value)] := by
  induction d with
  | nil => rfl
  | cons first rest ih =>
      obtain ⟨k, v⟩ := first
      have hk : k < key := h _ List.mem_cons_self
      unfold insert
      rw [if_neg hk.not_gt, if_neg hk.ne, ih fun e he => h e (List.mem_cons_of_mem _ he)]
      rfl

/-- A dictionary is made again of its own entries. -/
theorem ofList_eq_self (h : d.Sorted) : ofList d = d := by
  -- Read from the left, each entry lies above those that were put in before.
  have hfold (rest front : Dictionary α) (hsorted : (front ++ rest).Sorted) :
      rest.foldl (fun d e => d.insert e.1 e.2) front = front ++ rest := by
    induction rest generalizing front with
    | nil => simp
    | cons e rest ih =>
        have hlt : ∀ a ∈ front, a.1 < e.1 := fun a ha =>
          (List.pairwise_append.mp hsorted).2.2 a ha e List.mem_cons_self
        have hsplit : front ++ e :: rest = front ++ [e] ++ rest := by simp
        rw [List.foldl_cons, insert_eq_concat hlt, hsplit]
        exact ih (front ++ [e]) (hsplit ▸ hsorted)
  exact hfold d [] h

end TrackerGuard.Dictionary
