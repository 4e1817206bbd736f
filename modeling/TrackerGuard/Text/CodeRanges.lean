/-!
# Sets of code points

A property of characters is data of a standard: a few hundred ranges of code points.  A
`CodeRanges` holds them in ascending order, is written as text in the usual notation
(`0041-005A 00B5`) and is searched by bisection.
-/

namespace TrackerGuard.Text

/-- The value of a hexadecimal digit, in either case. -/
def hexValue? (c : Char) : Option Nat :=
  if '0' ≤ c && c ≤ '9' then some (c.toNat - 48)
  else if 'a' ≤ c && c ≤ 'f' then some (c.toNat - 87)
  else if 'A' ≤ c && c ≤ 'F' then some (c.toNat - 55)
  else none

/-- The number that a run of hexadecimal digits spells; other characters count as zero. -/
def hexNumber (cs : List Char) : Nat :=
  cs.foldl (fun n c => 16 * n + (hexValue? c).getD 0) 0

/-- Ranges of code points, each given by its first and its last, in ascending order. -/
structure CodeRanges where
  ranges : Array (Nat × Nat)

namespace CodeRanges

/-- Reads one range, `41-5A` or `B5`. -/
def range (cs : List Char) : Nat × Nat :=
  match cs.splitOn '-' with
  | [a, b] => (hexNumber a, hexNumber b)
  | _ => (hexNumber cs, hexNumber cs)

/-- Reads ranges written in ascending order with a space between them. -/
def ofLines (lines : List String) : CodeRanges :=
  ⟨(lines.flatMap fun line =>
    ((line.toList.splitOn ' ').filter (!·.isEmpty)).map range).toArray⟩

/-- Whether one of the ranges from `lo` up to, but without, `hi` holds the code point. -/
def search (t : Array (Nat × Nat)) (n : Nat) (lo hi : Nat) : Bool :=
  if lo < hi then
    let mid := (lo + hi) / 2
    match t[mid]? with
    | none => false
    | some (a, b) =>
      if n < a then search t n lo mid
      else if b < n then search t n (mid + 1) hi
      else true
  else false
termination_by hi - lo

/-- Whether the code point lies in one of the ranges. -/
def mem (t : CodeRanges) (c : Char) : Bool := search t.ranges c.toNat 0 t.ranges.size

end CodeRanges

end TrackerGuard.Text
