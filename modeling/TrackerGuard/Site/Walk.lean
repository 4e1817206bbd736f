import TrackerGuard.Text.Blank

/-!
# Walking up from a host

A host is looked up in the tracker index together with the domains above it, down in length to its
site.  The parent of a host is what follows its first full stop; a host that ends there has none.
Lengths are in bytes.

The walk can be made in one go (`suffixes`) or step by step (`Walk.next`), so that whoever finds what
it looks for goes no further.
-/

namespace TrackerGuard.Host

/-- What follows the first full stop, if anything does. -/
def parentOf? (host : List Char) : Option (List Char) :=
  match host.dropWhile (· != '.') with
  | _ :: c :: cs => some (c :: cs)
  | _ => none

theorem length_lt_of_parentOf? {host parent : List Char} (h : parentOf? host = some parent) :
    parent.length < host.length := by
  have hle := (List.dropWhile_sublist (· != '.') (l := host)).length_le
  unfold parentOf? at h
  split at h
  · rename_i heq
    cases h
    rw [heq] at hle
    simp only [List.length_cons] at hle ⊢
    omega
  · cases h

/-- A host and the domains above it, as long as they have as many bytes as the shortest one that is
asked for. -/
def suffixesFrom (shortest : Nat) (host : List Char) : List (List Char) :=
  if host.isEmpty || Text.utf8Length host < shortest then []
  else
    match _h : parentOf? host with
    | none => [host]
    | some parent => host :: suffixesFrom shortest parent
termination_by host.length
decreasing_by exact length_lt_of_parentOf? _h

/-- A host and the domains above it that have no fewer bytes than its site. -/
def suffixes (host site : String) : List String :=
  (suffixesFrom (Text.utf8Length site.toList) host.toList).map String.ofList

/-- A walk on its way. -/
structure Walk where
  /-- The domain that is visited next; the empty text if there is none. -/
  current : List Char
  /-- The number of bytes below which a domain is not visited. -/
  shortest : Nat

namespace Walk

/-- The walk from a host down in length to a site, before its first step. -/
def start (host site : String) : Walk := ⟨host.toList, Text.utf8Length site.toList⟩

/-- Whether nothing is visited any more. -/
def isOver (w : Walk) : Bool := w.current.isEmpty || Text.utf8Length w.current < w.shortest

/-- The walk behind the domain that it visits: at the parent, unless that has too few bytes. -/
def advance (w : Walk) : Walk :=
  { w with current := ((parentOf? w.current).filter (w.shortest ≤ Text.utf8Length ·)).getD [] }

/-- One step: the domain that is visited, and the walk behind it.  A walk that is over stays where it
is. -/
def next (w : Walk) : Option String × Walk :=
  if w.isOver then (none, w) else (some (String.ofList w.current), w.advance)

/-- The domain that is visited in a step, if the walk has so many; steps are counted from zero. -/
def visit? (w : Walk) : Nat → Option String
  | 0 => w.next.1
  | n + 1 => w.next.2.visit? n

end Walk

/-- The domains above a host, from the longest on. -/
def parentsFrom (host : List Char) : List (List Char) :=
  match _h : parentOf? host with
  | none => []
  | some parent => parent :: parentsFrom parent
termination_by host.length
decreasing_by exact length_lt_of_parentOf? _h

/-- The domains above a host, from the longest on. -/
def parents (host : String) : List String := (parentsFrom host.toList).map String.ofList

end TrackerGuard.Host
