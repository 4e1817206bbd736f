import TrackerGuard.Idna.MappingTable
import TrackerGuard.Idna.Composition

/-!
# Mapping the characters of a domain name

Each character of a domain name is kept, replaced, left out or refused.  Capital letters and
compatibility characters are among those replaced, and the full stops of other scripts become the
ASCII one.
-/

namespace TrackerGuard.Idna

open Text

/-- What becomes of a character. -/
inductive Fate where
  | kept
  | replaced (text : List Char)
  | leftOut
  | refused
  deriving DecidableEq, Repr

/-- A run of characters that are replaced alike: every `step`-th code point from `first` to `last`
becomes the text of `target`, moved by the distance from `first`. -/
structure Replacement where
  first : Nat
  last : Nat
  step : Nat
  target : List Nat

/-- Reads a replacement. -/
def Replacement.ofToken (token : List Char) : Replacement :=
  let (key, value) := splitEntry token
  let target := codePoints value
  match key.splitOn '-', key.splitOn ':' with
  | [a, b], _ => ⟨hexNumber a, hexNumber b, 1, target⟩
  | _, [a, b] => ⟨hexNumber a, hexNumber b, 2, target⟩
  | _, _ => ⟨hexNumber key, hexNumber key, 1, target⟩

/-- The replacements, in ascending order. -/
def replacements : Array Replacement :=
  ((tokens replacementLines).map Replacement.ofToken).toArray

/-- Looks for a replacement of the code point from `lo` up to, but without, `hi`. -/
def findReplacement? (t : Array Replacement) (n lo hi : Nat) : Option (List Char) :=
  if lo < hi then
    let mid := (lo + hi) / 2
    match t[mid]? with
    | none => none
    | some r =>
      if n < r.first then findReplacement? t n lo mid
      else if r.last < n then findReplacement? t n (mid + 1) hi
      else if (n - r.first) % r.step = 0 then
        some (r.target.map fun m => Char.ofNat (m + (n - r.first)))
      else none
  else none
termination_by hi - lo

/-- What becomes of a character in a domain name. -/
def fate (c : Char) : Fate :=
  if c.toNat < 0x80 then
    if c.isUpper then .replaced [c.toLower] else .kept
  else if Idna.refused.mem c then .refused
  else if ignored.mem c then .leftOut
  else
    match findReplacement? replacements c.toNat 0 replacements.size with
    | some cs => .replaced cs
    | none => .kept

/-- The characters of a domain name after the mapping, unless one of them is refused. -/
def map? : List Char → Option (List Char)
  | [] => some []
  | c :: cs =>
    match fate c with
    | .kept => (map? cs).map (c :: ·)
    | .replaced text => (map? cs).map (text ++ ·)
    | .leftOut => map? cs
    | .refused => none

end TrackerGuard.Idna
