import TrackerGuard.Text.LowercaseTable

/-!
# Lower case

Host names are lowered letter by letter within ASCII; the entries of a tracker list are lowered by
the full rules of the character standard.  The full rules differ from a map of characters in two
places: the capital dotted `I` becomes an `i` followed by a combining dot, and a capital sigma is
written in its final form when a cased letter stands before it and none after it, where characters
that are case-ignorable are passed over on both sides.
-/

namespace TrackerGuard.Text

/-- The text with the letters `A` to `Z` lowered and all else kept. -/
def asciiLower (cs : List Char) : List Char := cs.map Char.toLower

/-- Looks up a code point among the runs from `lo` up to, but without, `hi`. -/
def lowerCodeIn (t : Array (Nat × Nat × Nat × Int)) (n : Nat) (lo hi : Nat) : Nat :=
  if lo < hi then
    let mid := (lo + hi) / 2
    match t[mid]? with
    | none => n
    | some (a, b, step, distance) =>
      if n < a then lowerCodeIn t n lo mid
      else if b < n then lowerCodeIn t n (mid + 1) hi
      else if (n - a) % step = 0 then (n + distance).toNat
      else n
  else n
termination_by hi - lo

/-- The lower-case form of a character that has one of one character, else the character. -/
def lowerChar (c : Char) : Char :=
  if c.toNat < 0x80 then c.toLower
  else Char.ofNat (lowerCodeIn lowercaseRuns c.toNat 0 lowercaseRuns.size)

/-- Whether the first character that is not case-ignorable is cased. -/
def startsCased (cs : List Char) : Bool :=
  match cs.dropWhile caseIgnorable.mem with
  | [] => false
  | c :: _ => cased.mem c

/-- The lower-case form of one character between the text before it, read backwards, and the text
after it. -/
def lowerBetween (before : List Char) (c : Char) (after : List Char) : List Char :=
  if c = 'İ' then ['i', '\u0307']
  else if c = 'Σ' then [if startsCased before && !startsCased after then 'ς' else 'σ']
  else [lowerChar c]

/-- Lowers a text of which `before` has been passed; `out` collects the result backwards. -/
def lowerFrom (before out : List Char) : List Char → List Char
  | [] => out.reverse
  | c :: cs => lowerFrom (c :: before) ((lowerBetween before c cs).reverse ++ out) cs

/-- The text in lower case, by the full rules. -/
def toLower (cs : List Char) : List Char := lowerFrom [] [] cs

end TrackerGuard.Text
