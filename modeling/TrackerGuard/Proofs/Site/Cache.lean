import Mathlib
import TrackerGuard.Site.Cache

/-!
# The cache and its order

A cache has its entries in a map and their keys in a queue.  The two are kept in step: the queue
holds the keys of the map, each once (`IsConsistent`).  A read changes a mark and nothing else.  A
visit to the first key takes its mark away and moves the key to the end, or drops the key from both
(`visit_cases`).

A cache is never more than full, so the first visit that drops a key makes room.  Each visit before
it takes a mark away, and there is room after one visit more than there are marks
(`size_makeRoom_lt`); that is less than the bound that `store` sets.  Hence whatever is read and
stored, a cache keeps to its capacity, and if the results that are stored are those of a function,
it holds no others (`IsSound`).
-/

namespace TrackerGuard

namespace Queue

variable {α : Type} {q : Queue α}

lemma pop?_of_nil (h : q.toList = []) : q.pop? = none := by
  have hpop := q.map_pop?
  rw [h] at hpop
  simpa using hpop

lemma pop?_of_cons {x : α} {rest : List α} (h : q.toList = x :: rest) :
    ∃ q', q.pop? = some (x, q') ∧ q'.toList = rest := by
  have hpop := q.map_pop?
  rw [h] at hpop
  obtain ⟨⟨y, q'⟩, hq', heq⟩ := Option.map_eq_some_iff.mp hpop
  obtain ⟨rfl, hrest⟩ := Prod.mk.inj heq
  exact ⟨q', hq', hrest⟩

end Queue

namespace Cache

variable {c : Cache} {key value : String} {rest : List String}

lemma mem_of_getElem?_eq_some {entry : String × Bool} (h : c.entries[key]? = some entry) :
    key ∈ c.entries := by
  rw [Std.HashMap.mem_iff_isSome_getElem?, h]
  rfl

/-- The order holds the keys of the entries, each once. -/
structure IsConsistent (c : Cache) : Prop where
  mem_order_iff : ∀ key, key ∈ c.order.toList ↔ key ∈ c.entries
  nodup : c.order.toList.Nodup

lemma isConsistent_empty (capacity : Nat) : (empty capacity).IsConsistent where
  mem_order_iff key := by simp [empty, Queue.toList]
  nodup := List.nodup_nil

lemma IsConsistent.size_eq (h : c.IsConsistent) : c.entries.size = c.order.toList.length := by
  have hperm : c.entries.keys.Perm c.order.toList := by
    refine (List.perm_ext_iff_of_nodup Std.HashMap.nodup_keys h.nodup).mpr fun key => ?_
    rw [Std.HashMap.mem_keys, h.mem_order_iff]
  rw [← Std.HashMap.length_keys, hperm.length_eq]

/-! ## One visit -/

lemma visit_of_nil (h : c.order.toList = []) : c.visit = c := by
  rw [visit, Queue.pop?_of_nil h]

/-- What a visit to the first key does. -/
lemma visit_cases (h : c.IsConsistent) (horder : c.order.toList = key :: rest) :
    ∃ value order,
      (c.entries[key]? = some (value, true) ∧ order.toList = rest ++ [key] ∧
        c.visit = { c with entries := c.entries.insert key (value, false), order := order }) ∨
      (c.entries[key]? = some (value, false) ∧ order.toList = rest ∧
        c.visit = { c with entries := c.entries.erase key, order := order }) := by
  have hkey : key ∈ c.entries := (h.mem_order_iff key).mp (horder ▸ List.mem_cons_self)
  obtain ⟨order, hpop, hrest⟩ := Queue.pop?_of_cons horder
  obtain ⟨⟨value, mark⟩, hentry⟩ : ∃ entry, c.entries[key]? = some entry :=
    ⟨_, Std.HashMap.getElem?_eq_some_getElem hkey⟩
  cases mark with
  | true =>
      refine ⟨value, order.push key, .inl ⟨hentry, ?_, ?_⟩⟩
      · rw [Queue.toList_push, hrest]
      · simp only [visit, hpop, hentry]
  | false =>
      refine ⟨value, order, .inr ⟨hentry, hrest, ?_⟩⟩
      simp only [visit, hpop, hentry]

@[simp] lemma capacity_visit (c : Cache) : c.visit.capacity = c.capacity := by
  unfold visit
  split
  · rfl
  · split <;> rfl

lemma IsConsistent.visit (h : c.IsConsistent) : c.visit.IsConsistent := by
  cases horder : c.order.toList with
  | nil => rwa [visit_of_nil horder]
  | cons key rest =>
      have hnodup : (key :: rest).Nodup := horder ▸ h.nodup
      have hmem (other : String) : other ∈ c.entries ↔ other = key ∨ other ∈ rest := by
        rw [← h.mem_order_iff, horder, List.mem_cons]
      obtain ⟨value, order, ⟨-, hrest, hvisit⟩ | ⟨-, hrest, hvisit⟩⟩ := visit_cases h horder
      · rw [hvisit]
        refine ⟨fun other => ?_, ?_⟩
        · rw [hrest, List.mem_append, List.mem_singleton, Std.HashMap.mem_insert, hmem,
            beq_iff_eq, eq_comm (a := other)]
          tauto
        · rw [hrest]
          exact (List.perm_append_singleton key rest).nodup_iff.mpr hnodup
      · rw [hvisit]
        obtain ⟨hkey, hrest'⟩ := List.nodup_cons.mp hnodup
        refine ⟨fun other => ?_, hrest ▸ hrest'⟩
        rw [hrest, Std.HashMap.mem_erase, hmem]
        by_cases heq : other = key
        · simp [heq, hkey]
        · simp [heq, Ne.symm heq]

/-- A visit changes no result. -/
lemma exists_mark_of_visit {mark : Bool} (h : c.IsConsistent)
    (hentry : c.visit.entries[key]? = some (value, mark)) :
    ∃ mark, c.entries[key]? = some (value, mark) := by
  cases horder : c.order.toList with
  | nil =>
      rw [visit_of_nil horder] at hentry
      exact ⟨mark, hentry⟩
  | cons first rest =>
      obtain ⟨old, order, ⟨hfirst, -, hvisit⟩ | ⟨-, -, hvisit⟩⟩ := visit_cases h horder
      · rw [hvisit, Std.HashMap.getElem?_insert] at hentry
        split_ifs at hentry with heq
        · obtain rfl := eq_of_beq heq
          obtain ⟨rfl, -⟩ := Prod.mk.inj (Option.some.inj hentry)
          exact ⟨true, hfirst⟩
        · exact ⟨mark, hentry⟩
      · rw [hvisit, Std.HashMap.getElem?_erase] at hentry
        split_ifs at hentry with heq
        exact ⟨mark, hentry⟩

lemma mem_of_mem_visit (h : c.IsConsistent) (hkey : key ∈ c.visit.entries) : key ∈ c.entries := by
  obtain ⟨mark, hentry⟩ :=
    exists_mark_of_visit h (Std.HashMap.getElem?_eq_some_getElem hkey)
  exact mem_of_getElem?_eq_some hentry

/-! ## Making room -/

/-- Whether the entry under a key is marked. -/
def isMarked (c : Cache) (key : String) : Bool := c.entries[key]?.any (·.2)

/-- How many entries are marked. -/
def marks (c : Cache) : Nat := c.order.toList.countP c.isMarked

lemma marks_le_size (h : c.IsConsistent) : c.marks ≤ c.entries.size := by
  rw [h.size_eq]
  exact List.countP_le_length

/-- A visit takes a mark away, or it drops an entry. -/
lemma marks_visit_or (h : c.IsConsistent) (hsome : c.entries.size ≠ 0) :
    c.visit.marks + 1 = c.marks ∧ c.visit.entries.size = c.entries.size ∨
      c.visit.entries.size + 1 = c.entries.size := by
  have hne : c.order.toList ≠ [] := by
    intro hnil
    rw [h.size_eq, hnil] at hsome
    exact hsome rfl
  obtain ⟨key, rest, horder⟩ := List.exists_cons_of_ne_nil hne
  have hkey : key ∉ rest := (List.nodup_cons.mp (horder ▸ h.nodup)).1
  have hmem : key ∈ c.entries := (h.mem_order_iff key).mp (horder ▸ List.mem_cons_self)
  obtain ⟨value, order, ⟨hentry, hrest, hvisit⟩ | ⟨hentry, hrest, hvisit⟩⟩ := visit_cases h horder
  · left
    have hfirst : c.isMarked key := by simp [isMarked, hentry]
    have hlast : c.visit.isMarked key = false := by simp [hvisit, isMarked]
    have hothers : rest.countP c.visit.isMarked = rest.countP c.isMarked := by
      refine List.countP_congr fun other hother => ?_
      have hne : key ≠ other := by
        rintro rfl
        exact hkey hother
      simp [hvisit, isMarked, Std.HashMap.getElem?_insert, hne]
    have horder' : c.visit.order.toList = rest ++ [key] := by rw [hvisit, hrest]
    constructor
    · rw [marks, marks, horder, horder', List.countP_append, List.countP_singleton, hlast,
        List.countP_cons_of_pos hfirst, hothers]
      simp
    · rw [hvisit, Std.HashMap.size_insert, if_pos hmem]
  · right
    rw [hvisit, Std.HashMap.size_erase, if_pos hmem]
    omega

lemma size_visit_le (h : c.IsConsistent) : c.visit.entries.size ≤ c.entries.size := by
  by_cases hsome : c.entries.size = 0
  · rw [h.size_eq, List.length_eq_zero_iff] at hsome
    rw [visit_of_nil hsome]
  · rcases marks_visit_or h hsome with ⟨-, hkept⟩ | hdropped <;> omega

lemma makeRoom_induction {P : Cache → Prop} (bound : Nat) (h : P c)
    (hvisit : ∀ c, P c → P c.visit) : P (makeRoom bound c) := by
  induction bound generalizing c with
  | zero => exact h
  | succ bound ih =>
      rw [makeRoom]
      split_ifs
      · exact h
      · exact ih (hvisit c h)

lemma makeRoom_of_lt (bound : Nat) (hroom : c.entries.size < c.capacity) :
    makeRoom bound c = c := by
  cases bound with
  | zero => rfl
  | succ bound => rw [makeRoom, if_pos hroom]

/-- There is room after one visit more than there are marks. -/
theorem size_makeRoom_lt {bound : Nat} (h : c.IsConsistent) (hpos : 0 < c.capacity)
    (hsize : c.entries.size ≤ c.capacity) (hbound : c.marks < bound) :
    (makeRoom bound c).entries.size < c.capacity := by
  induction bound generalizing c with
  | zero => omega
  | succ bound ih =>
      rw [makeRoom]
      split_ifs with hroom
      · exact hroom
      · rw [← capacity_visit c] at hpos hsize hroom ⊢
        rcases marks_visit_or h (by omega) with ⟨hmarks, hkept⟩ | hdropped
        · exact ih h.visit hpos (by omega) (by omega)
        · have hroom' : c.visit.entries.size < c.visit.capacity := by omega
          rwa [makeRoom_of_lt bound hroom']

/-! ## Results of a function -/

variable {result : String → String}

/-- A cache that keeps to its capacity and holds results of a function for its keys. -/
structure IsSound (result : String → String) (c : Cache) : Prop extends IsConsistent c where
  size_le : c.entries.size ≤ c.capacity
  value_eq : ∀ key value mark, c.entries[key]? = some (value, mark) → value = result key

lemma isSound_empty (capacity : Nat) : (empty capacity).IsSound result where
  toIsConsistent := isConsistent_empty capacity
  size_le := by simp [empty]
  value_eq key value mark hentry := by simp [empty] at hentry

lemma IsSound.visit (h : c.IsSound result) : c.visit.IsSound result where
  toIsConsistent := h.toIsConsistent.visit
  size_le := by
    rw [capacity_visit]
    exact (size_visit_le h.toIsConsistent).trans h.size_le
  value_eq key value mark hentry := by
    obtain ⟨mark, hentry⟩ := exists_mark_of_visit h.toIsConsistent hentry
    exact h.value_eq key value mark hentry

lemma IsSound.makeRoom (h : c.IsSound result) (bound : Nat) :
    (c.makeRoom bound).IsSound result :=
  makeRoom_induction bound h fun _ hsound => hsound.visit

lemma capacity_makeRoom (c : Cache) (bound : Nat) : (c.makeRoom bound).capacity = c.capacity :=
  makeRoom_induction (P := (·.capacity = c.capacity)) bound rfl fun c' h => by
    rw [capacity_visit, h]

/-- A key that is not there is not there after room was made. -/
lemma notMem_makeRoom (h : c.IsConsistent) (hkey : key ∉ c.entries) (bound : Nat) :
    key ∉ (c.makeRoom bound).entries :=
  (makeRoom_induction (P := fun c => c.IsConsistent ∧ key ∉ c.entries) bound ⟨h, hkey⟩
    fun _ ⟨h, hkey⟩ => ⟨h.visit, fun hmem => hkey (mem_of_mem_visit h hmem)⟩).2

/-- A new key goes to the end. -/
lemma IsConsistent.insert (h : c.IsConsistent) (hkey : key ∉ c.entries) (value : String) :
    IsConsistent
      { c with
        entries := c.entries.insert key (value, false)
        order := c.order.push key } where
  mem_order_iff other := by
    rw [Queue.toList_push, List.mem_append, List.mem_singleton, h.mem_order_iff,
      Std.HashMap.mem_insert, beq_iff_eq, eq_comm (a := other), or_comm]
  nodup := by
    have hnew : key ∉ c.order.toList := fun hmem => hkey ((h.mem_order_iff key).mp hmem)
    rw [Queue.toList_push]
    exact (List.perm_append_singleton key _).nodup_iff.mpr (h.nodup.cons hnew)

/-- A new key with its result goes to the end. -/
lemma IsSound.insert (h : c.IsSound result) (hkey : key ∉ c.entries)
    (hroom : c.entries.size < c.capacity) :
    IsSound result
      { c with
        entries := c.entries.insert key (result key, false)
        order := c.order.push key } where
  toIsConsistent := h.toIsConsistent.insert hkey (result key)
  size_le := by
    rw [Std.HashMap.size_insert, if_neg hkey]
    exact hroom
  value_eq other value mark hentry := by
    rw [Std.HashMap.getElem?_insert] at hentry
    split_ifs at hentry with heq
    · obtain rfl := eq_of_beq heq
      exact (Prod.mk.inj (Option.some.inj hentry)).1.symm
    · exact h.value_eq other value mark hentry

lemma capacity_store (c : Cache) (key value : String) :
    (c.store key value).capacity = c.capacity := by
  unfold store
  split_ifs
  · rfl
  · rfl
  · exact capacity_makeRoom c _

/-- A cache stays sound when the result for a key is stored. -/
theorem IsSound.store (h : c.IsSound result) (hpos : 0 < c.capacity) (key : String) :
    (c.store key (result key)).IsSound result := by
  rw [Cache.store]
  split_ifs with hkey hroom
  · exact h
  · exact h.insert (by simpa using hkey) hroom
  · have hkey' : key ∉ c.entries := by simpa using hkey
    have hbound : c.marks < c.visitBound := by
      have hmarks := marks_le_size h.toIsConsistent
      rw [visitBound]
      omega
    refine (h.makeRoom c.visitBound).insert (notMem_makeRoom h.toIsConsistent hkey' _) ?_
    rw [capacity_makeRoom]
    exact size_makeRoom_lt h.toIsConsistent hpos h.size_le hbound

/-- A cache stays sound when a key is read. -/
theorem IsSound.read (h : c.IsSound result) (key : String) : (c.read key).2.IsSound result := by
  rw [Cache.read]
  cases hentry : c.entries[key]? with
  | none => exact h
  | some entry =>
      obtain ⟨value, mark⟩ := entry
      have hkey : key ∈ c.entries := mem_of_getElem?_eq_some hentry
      refine ⟨⟨fun other => ?_, h.nodup⟩, ?_, fun other found mark' hfound => ?_⟩
      · rw [h.mem_order_iff, Std.HashMap.mem_insert, beq_iff_eq]
        refine (or_iff_right_of_imp ?_).symm
        rintro rfl
        exact hkey
      · rw [Std.HashMap.size_insert, if_pos hkey]
        exact h.size_le
      · rw [Std.HashMap.getElem?_insert] at hfound
        split_ifs at hfound with heq
        · obtain rfl := eq_of_beq heq
          obtain ⟨rfl, -⟩ := Prod.mk.inj (Option.some.inj hfound)
          exact h.value_eq key value mark hentry
        · exact h.value_eq other found mark' hfound

lemma capacity_read (c : Cache) (key : String) : (c.read key).2.capacity = c.capacity := by
  rw [read]
  split <;> rfl

/-- What is read is the result for the key. -/
lemma IsSound.read_eq (h : c.IsSound result) (hread : (c.read key).1 = some value) :
    value = result key := by
  rw [Cache.read] at hread
  cases hentry : c.entries[key]? with
  | none => simp [hentry] at hread
  | some entry =>
      obtain ⟨found, mark⟩ := entry
      simp only [hentry, Option.some.injEq] at hread
      rw [← hread]
      exact h.value_eq key found mark hentry

end Cache

end TrackerGuard
