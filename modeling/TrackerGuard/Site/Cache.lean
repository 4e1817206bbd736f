import Std.Data.HashMap

/-!
# A cache with second chances

A cache of bounded size that holds the results of look-ups.  A hit only marks its entry.  When room
is needed, the entries are visited in the order of their age: a marked one loses its mark and goes
to the end of the order, and the first one without a mark is dropped.

The order is a `Queue`, whose meaning is the list `Queue.toList`.
-/

namespace TrackerGuard

/-- A first-in first-out queue: the front in order and the back in reverse order. -/
structure Queue (α : Type) where
  front : List α := []
  back : List α := []

namespace Queue

variable {α : Type}

/-- The elements from the first to the last. -/
def toList (q : Queue α) : List α := q.front ++ q.back.reverse

/-- Adds an element at the end. -/
def push (q : Queue α) (x : α) : Queue α := { q with back := x :: q.back }

@[simp] theorem toList_push (q : Queue α) (x : α) : (q.push x).toList = q.toList ++ [x] := by
  simp [toList, push]

/-- Takes the first element off. -/
def pop? (q : Queue α) : Option (α × Queue α) :=
  match q.front with
  | x :: front => some (x, { q with front := front })
  | [] =>
    match q.back.reverse with
    | [] => none
    | x :: front => some (x, ⟨front, []⟩)

/-- Taking the first element off takes the head of the list. -/
theorem map_pop? (q : Queue α) :
    q.pop?.map (fun p => (p.1, p.2.toList)) = q.toList.head?.map fun x => (x, q.toList.tail) := by
  unfold pop? toList
  split
  · rename_i h
    simp [h]
  · rename_i h
    split <;> rename_i h' <;> simp [h, h']

end Queue

/-- A cache of results by key. -/
structure Cache where
  /-- How many entries there may be. -/
  capacity : Nat
  /-- The results, each with its mark. -/
  entries : Std.HashMap String (String × Bool)
  /-- The keys in the order in which they are visited when room is needed. -/
  order : Queue String

namespace Cache

/-- A cache without entries. -/
def empty (capacity : Nat) : Cache := ⟨capacity, ∅, {}⟩

/-- Looks a key up and marks its entry. -/
def read (c : Cache) (key : String) : Option String × Cache :=
  match c.entries[key]? with
  | none => (none, c)
  | some (value, _) => (some value, { c with entries := c.entries.insert key (value, true) })

/-- Visits the first key of the order, if there is one. -/
def visit (c : Cache) : Cache :=
  match c.order.pop? with
  | none => c
  | some (key, order) =>
    match c.entries[key]? with
    | some (value, true) =>
      { c with entries := c.entries.insert key (value, false), order := order.push key }
    | _ => { c with entries := c.entries.erase key, order := order }

/-- Visits keys until there is room for an entry; the first number bounds the visits. -/
def makeRoom : Nat → Cache → Cache
  | 0, c => c
  | bound + 1, c => if c.entries.size < c.capacity then c else makeRoom bound c.visit

/-- How many visits are enough to make room: the order holds the keys of the entries, and each of
them is visited twice at most, once with its mark and once without. -/
def visitBound (c : Cache) : Nat := 2 * c.entries.size + 1

/-- Adds a result, unless there is one under the key. -/
def store (c : Cache) (key value : String) : Cache :=
  if c.entries.contains key then c
  else
    let c := if c.entries.size < c.capacity then c else makeRoom c.visitBound c
    { c with entries := c.entries.insert key (value, false), order := c.order.push key }

end Cache

end TrackerGuard
