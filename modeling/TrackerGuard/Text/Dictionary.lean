/-!
# Dictionaries

A finite map from texts to values, kept as the list of its entries in ascending order of the keys,
so that two equal maps are equal lists and are written the same way.  Keys are ordered by code
point, which is also the order of their bytes in UTF-8.
-/

namespace TrackerGuard

/-- Entries of a finite map, in ascending order of the keys. -/
abbrev Dictionary (α : Type) := List (String × α)

namespace Dictionary

variable {α : Type}

/-- The value under a key. -/
def find? (key : String) : Dictionary α → Option α
  | [] => none
  | (k, v) :: rest => if k = key then some v else find? key rest

/-- The map with the value put under the key, in place of the one that was there. -/
def insert (key : String) (value : α) : Dictionary α → Dictionary α
  | [] => [(key, value)]
  | (k, v) :: rest =>
    if key < k then (key, value) :: (k, v) :: rest
    else if k = key then (key, value) :: rest
    else (k, v) :: insert key value rest

/-- The map without the key. -/
def erase (key : String) (d : Dictionary α) : Dictionary α := d.filter (·.1 ≠ key)

/-- The map with a key as it was in another: with its value there, or without it. -/
def restore (key : String) (previous : Option α) (d : Dictionary α) : Dictionary α :=
  match previous with
  | some value => d.insert key value
  | none => d.erase key

/-- The map of a list of entries, of which the last one under a key counts. -/
def ofList (entries : List (String × α)) : Dictionary α :=
  entries.foldl (fun d e => d.insert e.1 e.2) []

/-- The keys stand in strictly ascending order. -/
def Sorted (d : Dictionary α) : Prop := d.Pairwise fun a b => a.1 < b.1

/-- A value that was put under a key is found there, and what is under other keys stays. -/
theorem find?_insert (d : Dictionary α) (k key : String) (v : α) :
    (d.insert k v).find? key = if k = key then some v else d.find? key := by
  induction d with
  | nil => simp [insert, find?]
  | cons e rest ih =>
    obtain ⟨k', v'⟩ := e
    unfold insert
    split
    · simp [find?]
    · split <;> grind [find?]

/-- A key that was removed is not found, and what is under other keys stays. -/
theorem find?_erase (d : Dictionary α) (k key : String) :
    (d.erase k).find? key = if k = key then none else d.find? key := by
  induction d with
  | nil => simp [erase, find?]
  | cons e rest ih =>
    obtain ⟨k', v⟩ := e
    unfold erase at ih ⊢
    by_cases hk : k' = k <;> by_cases h : k' = key <;> grind [find?]

theorem find?_restore (d : Dictionary α) (k key : String) (previous : Option α) :
    (d.restore k previous).find? key = if k = key then previous else d.find? key := by
  cases previous with
  | none => exact find?_erase d k key
  | some v => exact find?_insert d k key v

end Dictionary

end TrackerGuard
