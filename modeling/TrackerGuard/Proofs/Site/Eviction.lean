import Mathlib
import TrackerGuard.Proofs.Site.Cache

/-!
# Which entry has to go

When a result is stored in a full cache, one entry is dropped.  A visit gives a marked key a second
chance: the key goes to the end and its mark is taken away.  The first key without a mark is
dropped, so it is the first one of the order that has none; and if all keys are marked, each gets
its second chance and the first one is visited again.

A cache is seen here as the list of its `slots` in the order of visits.  On this list a visit is a
rotation by one slot or the removal of the first (`slots_visit`), marked slots at the front go round
together (`slots_iterate_visit`), and `evicts_of_marked` is the whole turn for any marked front, of
which both cases are instances.
-/

namespace TrackerGuard.Cache

variable {c : Cache} {key value : String}

/-- An entry with its key. -/
structure Slot where
  key : String
  value : String
  mark : Bool
  deriving DecidableEq, Repr

/-- The slot after its second chance was used. -/
def Slot.cleared (s : Slot) : Slot := { s with mark := false }

/-- The slot of a key, if it has an entry. -/
def slot? (c : Cache) (key : String) : Option Slot :=
  c.entries[key]?.map fun entry => ⟨key, entry.1, entry.2⟩

/-- The entries in the order in which they are visited. -/
def slots (c : Cache) : List Slot := c.order.toList.filterMap c.slot?

lemma slot?_eq_some_iff {s : Slot} :
    c.slot? key = some s ↔ s.key = key ∧ c.entries[key]? = some (s.value, s.mark) := by
  obtain ⟨k, v, m⟩ := s
  cases hentry : c.entries[key]? <;> simp [slot?, hentry, Prod.ext_iff, eq_comm (a := key)]

/-- The slots are what is in the entries. -/
lemma mem_slots_iff (h : c.IsConsistent) {s : Slot} :
    s ∈ c.slots ↔ c.entries[s.key]? = some (s.value, s.mark) := by
  simp only [slots, List.mem_filterMap, slot?_eq_some_iff]
  constructor
  · rintro ⟨key, -, rfl, hentry⟩
    exact hentry
  · intro hentry
    exact ⟨s.key, (h.mem_order_iff s.key).mpr (mem_of_getElem?_eq_some hentry), rfl, hentry⟩

lemma map_key_slots (h : c.IsConsistent) : c.slots.map Slot.key = c.order.toList := by
  rw [slots, List.map_filterMap, List.filterMap_eq_map_iff_forall_eq_some.mpr, List.map_id]
  intro key hkey
  have hmem : key ∈ c.entries := (h.mem_order_iff key).mp hkey
  rw [slot?, Std.HashMap.getElem?_eq_some_getElem hmem]
  rfl

lemma mem_map_key_slots_iff (h : c.IsConsistent) :
    key ∈ c.slots.map Slot.key ↔ key ∈ c.entries := by
  rw [map_key_slots h, h.mem_order_iff]

lemma length_slots (h : c.IsConsistent) : c.slots.length = c.entries.size := by
  rw [h.size_eq, ← map_key_slots h, List.length_map]

/-- Slots of keys that are not touched stay as they are. -/
lemma filterMap_slot?_congr {c' : Cache} {keys : List String}
    (h : ∀ key ∈ keys, c'.entries[key]? = c.entries[key]?) :
    keys.filterMap c'.slot? = keys.filterMap c.slot? :=
  List.filterMap_congr fun key hkey => by rw [slot?, slot?, h key hkey]

/-! ## One visit -/

/-- A visit moves the first slot to the end without its mark, or drops it. -/
lemma slots_visit {first : Slot} {rest : List Slot} (h : c.IsConsistent)
    (hslots : c.slots = first :: rest) :
    c.visit.slots = if first.mark then rest ++ [first.cleared] else rest := by
  have horder : c.order.toList = first.key :: rest.map Slot.key := by
    rw [← map_key_slots h, hslots, List.map_cons]
  have hentry : c.entries[first.key]? = some (first.value, first.mark) :=
    (mem_slots_iff h).mp (hslots ▸ List.mem_cons_self)
  have hrest : (rest.map Slot.key).filterMap c.slot? = rest := by
    rw [slots, horder, List.filterMap_cons_some (slot?_eq_some_iff.mpr ⟨rfl, hentry⟩)] at hslots
    exact (List.cons.inj hslots).2
  have hne : ∀ key ∈ rest.map Slot.key, ¬ (first.key == key) := by
    have hnodup := (List.nodup_cons.mp (horder ▸ h.nodup)).1
    intro key hkey heq
    exact hnodup (eq_of_beq heq ▸ hkey)
  obtain ⟨value, order, ⟨hfirst, horder', hvisit⟩ | ⟨hfirst, horder', hvisit⟩⟩ :=
    visit_cases h horder
  · obtain ⟨rfl, hmark⟩ := Prod.mk.inj (Option.some.inj (hentry.symm.trans hfirst))
    have hkept : (rest.map Slot.key).filterMap c.visit.slot? = rest := by
      refine (filterMap_slot?_congr fun key hkey => ?_).trans hrest
      rw [hvisit, Std.HashMap.getElem?_insert, if_neg (hne key hkey)]
    have hlast : c.visit.slot? first.key = some first.cleared := by
      simp [hvisit, slot?, Slot.cleared]
    have horder'' : c.visit.order.toList = rest.map Slot.key ++ [first.key] := by
      rw [hvisit, horder']
    rw [if_pos hmark, slots, horder'', List.filterMap_append, hkept,
      List.filterMap_cons_some hlast, List.filterMap_nil]
  · obtain ⟨-, hmark⟩ := Prod.mk.inj (Option.some.inj (hentry.symm.trans hfirst))
    rw [if_neg (by simp [hmark]), hvisit, slots, horder']
    refine (filterMap_slot?_congr fun key hkey => ?_).trans hrest
    rw [Std.HashMap.getElem?_erase, if_neg (hne key hkey)]

/-! ## The turn of the marked slots -/

lemma isConsistent_iterate_visit (h : c.IsConsistent) (n : ℕ) : (visit^[n] c).IsConsistent :=
  Function.Iterate.rec IsConsistent h (fun _ => IsConsistent.visit) n

/-- Marked slots at the front go to the end one after another, and their marks are taken away. -/
lemma slots_iterate_visit {front rest : List Slot} (h : c.IsConsistent)
    (hslots : c.slots = front ++ rest) (hmarked : ∀ s ∈ front, s.mark) :
    (visit^[front.length] c).slots = rest ++ front.map Slot.cleared := by
  induction front generalizing c rest with
  | nil => simpa using hslots
  | cons first front ih =>
      obtain ⟨hfirst, hfront⟩ := List.forall_mem_cons.mp hmarked
      have hvisit : c.visit.slots = front ++ (rest ++ [first.cleared]) := by
        rw [slots_visit h hslots, if_pos hfirst]
        exact List.append_assoc front rest [first.cleared]
      rw [List.length_cons, Function.iterate_succ_apply, ih h.visit hvisit hfront]
      simp

/-- No entry is dropped before the marked slots at the front have had their turn. -/
lemma size_iterate_visit {front rest : List Slot} {n : ℕ} (h : c.IsConsistent)
    (hslots : c.slots = front ++ rest) (hmarked : ∀ s ∈ front, s.mark) (hn : n ≤ front.length) :
    (visit^[n] c).entries.size = c.entries.size := by
  have htaken : (front.take n).length = n := List.length_take_of_le hn
  have hslots' : c.slots = front.take n ++ (front.drop n ++ rest) := by
    rw [← List.append_assoc, List.take_append_drop, hslots]
  have hturn := slots_iterate_visit h hslots' fun s hs => hmarked s (List.mem_of_mem_take hs)
  rw [htaken] at hturn
  rw [← length_slots (isConsistent_iterate_visit h n), ← length_slots h, hturn, hslots']
  simp only [List.length_append, List.length_map]
  omega

/-- The loop of visits ends after `n` of them, and not before. -/
structure EndsAfter (c : Cache) (n : ℕ) : Prop where
  isFull : ∀ m < n, ¬ (visit^[m] c).entries.size < c.capacity
  hasRoom : (visit^[n] c).entries.size < c.capacity

/-- The bound of the loop does not matter if it is not too small. -/
lemma EndsAfter.makeRoom_eq {n bound : ℕ} (h : c.EndsAfter n) (hbound : n ≤ bound) :
    makeRoom bound c = visit^[n] c := by
  induction n generalizing c bound with
  | zero => exact makeRoom_of_lt bound h.hasRoom
  | succ n ih =>
      obtain ⟨bound, rfl⟩ : ∃ b, bound = b + 1 := ⟨bound - 1, by omega⟩
      have hnext : c.visit.EndsAfter n := by
        constructor
        · intro m hm
          rw [capacity_visit, ← Function.iterate_succ_apply]
          exact h.isFull (m + 1) (Nat.succ_lt_succ hm)
        · rw [capacity_visit, ← Function.iterate_succ_apply]
          exact h.hasRoom
      have hfull : ¬ c.entries.size < c.capacity := h.isFull 0 n.succ_pos
      rw [makeRoom, if_neg hfull, ih hnext (by omega), Function.iterate_succ_apply]

/-! ## Storing in a full cache -/

lemma slots_insert (h : c.IsConsistent) (hkey : key ∉ c.entries) (value : String) :
    slots { c with
      entries := c.entries.insert key (value, false)
      order := c.order.push key } = c.slots ++ [⟨key, value, false⟩] := by
  rw [slots, Queue.toList_push, List.filterMap_append]
  congr 1
  · refine filterMap_slot?_congr fun other hother => ?_
    have hne : key ≠ other := by
      rintro rfl
      exact hkey ((h.mem_order_iff key).mp hother)
    rw [Std.HashMap.getElem?_insert, if_neg (by simpa using hne)]
  · simp [slot?]

/-- In a full cache room is made before the new key is put at the end. -/
lemma store_of_endsAfter {n : ℕ} (hfull : c.entries.size = c.capacity) (hkey : key ∉ c.entries)
    (hends : c.EndsAfter n) (hn : n ≤ c.entries.size + 1) (value : String) :
    c.store key value =
      { visit^[n] c with
        entries := (visit^[n] c).entries.insert key (value, false)
        order := (visit^[n] c).order.push key } := by
  have hbound : n ≤ c.visitBound := by
    rw [visitBound]
    omega
  rw [store, if_neg (by simpa using hkey), if_neg (by omega), hends.makeRoom_eq hbound]

/-- Storing a result takes `n` visits and drops the entry of `victim`; the slots that are `kept` and
the new one are left. -/
structure Evicts (c : Cache) (key value : String) (n : ℕ) (victim : String) (kept : List Slot) :
    Prop where
  endsAfter : c.EndsAfter n
  le_size : n ≤ c.entries.size + 1
  makeRoom_eq : ∀ bound, n ≤ bound → makeRoom bound c = visit^[n] c
  isConsistent : (c.store key value).IsConsistent
  slots_eq : (c.store key value).slots = kept ++ [⟨key, value, false⟩]
  mem_iff : ∀ other, other ∈ (c.store key value).entries ↔
    other = key ∨ other ∈ c.entries ∧ other ≠ victim

/-- What is left after the visits decides what storing a result does. -/
lemma evicts_of_endsAfter {n : ℕ} {victim : String} {kept : List Slot} (h : c.IsConsistent)
    (hfull : c.entries.size = c.capacity) (hkey : key ∉ c.entries) (value : String)
    (hends : c.EndsAfter n) (hn : n ≤ c.entries.size + 1) (hkept : (visit^[n] c).slots = kept)
    (hperm : (c.slots.map Slot.key).Perm (victim :: kept.map Slot.key)) :
    c.Evicts key value n victim kept := by
  have hconsistent := isConsistent_iterate_visit h n
  have hstore := store_of_endsAfter hfull hkey hends hn value
  have hkey' : key ∉ (visit^[n] c).entries := by
    rw [← hends.makeRoom_eq le_rfl]
    exact notMem_makeRoom h hkey n
  have hstored : (c.store key value).IsConsistent := by
    rw [hstore]
    exact hconsistent.insert hkey' value
  have hslots : (c.store key value).slots = kept ++ [⟨key, value, false⟩] := by
    rw [hstore, slots_insert hconsistent hkey', hkept]
  have hvictim : victim ∉ kept.map Slot.key :=
    (List.nodup_cons.mp (hperm.nodup_iff.mp (map_key_slots h ▸ h.nodup))).1
  refine ⟨hends, hn, fun bound hbound => hends.makeRoom_eq hbound, hstored, hslots, fun other => ?_⟩
  rw [← mem_map_key_slots_iff h, ← mem_map_key_slots_iff hstored, hslots, hperm.mem_iff,
    List.map_append, List.mem_append, List.map_singleton, List.mem_singleton, List.mem_cons]
  constructor
  · rintro (hold | hnew)
    · exact .inr ⟨.inr hold, fun heq => hvictim (heq ▸ hold)⟩
    · exact .inl hnew
  · rintro (hnew | ⟨hold, hne⟩)
    · exact .inr hnew
    · exact .inl (hold.resolve_left hne)

/-- When the marked slots at the front have had their turn, the slot that is then the first is
dropped if it has no mark. -/
lemma evicts_of_marked {front rest kept : List Slot} {victim : Slot} (h : c.IsConsistent)
    (hfull : c.entries.size = c.capacity) (hkey : key ∉ c.entries) (value : String)
    (hslots : c.slots = front ++ rest) (hmarked : ∀ s ∈ front, s.mark)
    (hturn : rest ++ front.map Slot.cleared = victim :: kept) (hvictim : victim.mark = false) :
    c.Evicts key value (front.length + 1) victim.key kept := by
  have hkept : (visit^[front.length + 1] c).slots = kept := by
    have hfirst := (slots_iterate_visit h hslots hmarked).trans hturn
    rw [Function.iterate_succ_apply', slots_visit (isConsistent_iterate_visit h _) hfirst,
      hvictim]
    rfl
  have hperm : (c.slots.map Slot.key).Perm (victim.key :: kept.map Slot.key) := by
    rw [hslots, ← List.map_cons, ← hturn, List.map_append, List.map_append, List.map_map]
    exact List.perm_append_comm
  have hsize : c.entries.size = kept.length + 1 := by
    simpa [length_slots h] using hperm.length_eq
  have hends : c.EndsAfter (front.length + 1) := by
    constructor
    · intro m hm
      rw [size_iterate_visit h hslots hmarked (Nat.le_of_lt_succ hm), hfull]
      exact lt_irrefl _
    · rw [← length_slots (isConsistent_iterate_visit h _), hkept]
      omega
  have hlength : front.length ≤ c.entries.size := by
    rw [← length_slots h, hslots, List.length_append]
    exact Nat.le_add_right _ _
  exact evicts_of_endsAfter h hfull hkey value hends (Nat.succ_le_succ hlength) hkept hperm

/-- **Second chances.**  Storing a result under a new key in a full cache drops exactly one entry,
within one visit more than there are entries.  If some entry has no mark, the first such one of the
order is dropped; the keys before it go behind the others, in their order and without their marks,
and those after it stay as they are.  If all entries are marked, the first one is dropped, and the
others lose their marks and keep their order.  No result changes, and the new one is the last,
without a mark. -/
theorem store_gives_second_chances (h : c.IsConsistent) (hfull : c.entries.size = c.capacity)
    (hpos : 0 < c.capacity) (hkey : key ∉ c.entries) (value : String) :
    ((∃ s ∈ c.slots, ¬ s.mark) →
      ∃ before victim after, c.slots = before ++ victim :: after ∧ (∀ s ∈ before, s.mark) ∧
        ¬ victim.mark ∧
        c.Evicts key value (before.length + 1) victim.key (after ++ before.map Slot.cleared)) ∧
      ((∀ s ∈ c.slots, s.mark) →
        ∃ victim rest, c.slots = victim :: rest ∧
          c.Evicts key value (c.slots.length + 1) victim.key (rest.map Slot.cleared)) := by
  constructor
  · rintro ⟨s, hs, hclear⟩
    obtain ⟨victim, hfind⟩ := Option.isSome_iff_exists.mp
      (List.find?_isSome (p := fun s : Slot => !s.mark).mpr ⟨s, hs, by simpa using hclear⟩)
    obtain ⟨hvictim, before, after, hslots, hbefore⟩ := List.find?_eq_some_iff_append.mp hfind
    simp only [Bool.not_not, Bool.not_eq_true'] at hvictim hbefore
    have hturn : (victim :: after) ++ before.map Slot.cleared =
        victim :: (after ++ before.map Slot.cleared) := rfl
    exact ⟨before, victim, after, hslots, hbefore, by simp [hvictim],
      evicts_of_marked h hfull hkey value hslots hbefore hturn hvictim⟩
  · intro hmarked
    obtain ⟨victim, rest, hslots⟩ : ∃ victim rest, c.slots = victim :: rest := by
      refine List.exists_cons_of_ne_nil fun hnil => ?_
      have hsize := length_slots h
      rw [hnil, List.length_nil] at hsize
      omega
    have hturn : [] ++ c.slots.map Slot.cleared = victim.cleared :: rest.map Slot.cleared := by
      rw [hslots]
      rfl
    have hevicts := evicts_of_marked h hfull hkey value (List.append_nil c.slots).symm hmarked
      hturn rfl
    exact ⟨victim, rest, hslots, hevicts⟩

/-- A full cache of three sites, of which the first and the last were read. -/
def fullOfThree : Cache where
  capacity := 3
  entries := ((Std.HashMap.emptyWithCapacity.insert "m.a.com" ("a.com", true)).insert
    "b.org" ("b.org", false)).insert "x.c.net" ("c.net", true)
  order := ⟨["m.a.com"], ["x.c.net", "b.org"]⟩

/-- The site in the middle has to go, and the one before it goes behind the other. -/
theorem store_gives_second_chances_when_full :
    fullOfThree.entries.size = fullOfThree.capacity ∧ "d.co.uk" ∉ fullOfThree.entries ∧
      fullOfThree.Evicts "d.co.uk" "d.co.uk" 2 "b.org"
        [⟨"x.c.net", "c.net", true⟩, ⟨"m.a.com", "a.com", false⟩] := by
  have hconsistent : fullOfThree.IsConsistent := by
    refine ⟨fun key => ?_, by decide⟩
    simp [fullOfThree, Queue.toList]
    tauto
  have hsize : fullOfThree.entries.size = fullOfThree.capacity := by
    simp [fullOfThree, Std.HashMap.size_insert]
  have hslots : fullOfThree.slots =
      [⟨"m.a.com", "a.com", true⟩, ⟨"b.org", "b.org", false⟩, ⟨"x.c.net", "c.net", true⟩] := by
    cbv
  have hkey : "d.co.uk" ∉ fullOfThree.entries := by
    simp [fullOfThree]
  obtain ⟨before, victim, after, hcut, hbefore, hvictim, hevicts⟩ :=
    (store_gives_second_chances hconsistent hsize (by decide) hkey "d.co.uk").1
      (by simp [hslots])
  rw [hslots] at hcut
  refine ⟨hsize, hkey, ?_⟩
  obtain _ | ⟨first, _ | ⟨second, others⟩⟩ := before
  · cases hcut
    exact absurd rfl hvictim
  · cases hcut
    exact hevicts
  · injection hcut with _ hcut
    injection hcut with hsecond _
    subst hsecond
    simp at hbefore

end TrackerGuard.Cache
