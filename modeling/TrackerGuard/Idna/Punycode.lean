/-!
# Punycode

A label with characters outside ASCII is written with ASCII characters alone: first those of its
characters that are ASCII, then a hyphen, then where the others have to be inserted.  The others are
taken in ascending order; each is given by how many steps lie between it and the one before, where
a step goes to the next place of the label and, from its last place, to the next code point.  The
steps are numbers in base 36 whose digits carry their own end: a digit below a threshold is the
last one.  The thresholds follow the size of the numbers met so far, the *bias*.

Labels that are longer than `maxEncoded`, or than `maxDecoded` when written, are refused.
-/

namespace TrackerGuard.Idna.Punycode

/-- The most characters of a label that is to be written in ASCII. -/
def maxEncoded : Nat := 1000

/-- The most characters of a written label that is to be read. -/
def maxDecoded : Nat := 2000

/-- The first code point that is not ASCII. -/
def firstCode : Nat := 0x80

/-- The bias before any number was met. -/
def firstBias : Nat := 72

/-- The digit of a value below 36: letters before figures. -/
def digitChar (d : Nat) : Char := Char.ofNat (if d < 26 then 97 + d else 22 + d)

/-- The value of a digit. -/
def digitValue? (c : Char) : Option Nat :=
  if 'a' ≤ c && c ≤ 'z' then some (c.toNat - 97)
  else if 'A' ≤ c && c ≤ 'Z' then some (c.toNat - 65)
  else if '0' ≤ c && c ≤ '9' then some (c.toNat - 22)
  else none

/-- The threshold of the digit at a place; the places count up in steps of 36 from 36. -/
def threshold (bias place : Nat) : Nat :=
  if place ≤ bias then 1 else if bias + 26 ≤ place then 26 else place - bias

theorem threshold_pos (bias place : Nat) : 0 < threshold bias place := by
  unfold threshold
  split
  · omega
  · split <;> omega

/-- How often a number has to be divided by 35 to come down to 455, in steps of 36, and what is left
of it. -/
def reduce (delta steps : Nat) : Nat × Nat :=
  if 455 < delta then reduce (delta / 35) (steps + 36) else (delta, steps)
termination_by delta
decreasing_by exact Nat.div_lt_self (by omega) (by omega)

/-- The bias after a number, given how many characters are in place now. -/
def adapt (first : Bool) (delta count : Nat) : Nat :=
  let delta := if first then delta / 700 else delta / 2
  let (delta, steps) := reduce (delta + delta / count) 0
  steps + 36 * delta / (delta + 38)

/-! ## Reading -/

/-- Where a reader of insertions stands. -/
structure State where
  /-- The label so far. -/
  label : List Char
  /-- The code point of the last insertion. -/
  code : Nat := firstCode
  /-- The place of the next insertion if it took no step. -/
  index : Nat := 0
  bias : Nat := firstBias
  first : Bool := true
  /-- The number that is being read, so far. -/
  delta : Nat := 0
  /-- The worth of its next digit. -/
  weight : Nat := 1
  /-- The place of its next digit. -/
  place : Nat := 36

/-- Reads insertions; the text must not end within one. -/
def insertions (s : State) : List Char → Option (List Char)
  | [] => if s.place = 36 then some s.label else none
  | c :: cs =>
    match digitValue? c with
    | none => none
    | some d =>
      let delta := s.delta + d * s.weight
      let t := threshold s.bias s.place
      if t ≤ d then
        insertions
          { s with delta := delta, weight := s.weight * (36 - t), place := s.place + 36 } cs
      else
        let count := s.label.length + 1
        let code := s.code + (s.index + delta) / count
        let index := (s.index + delta) % count
        if code.isValidChar then
          insertions
            { label := s.label.insertIdx index (Char.ofNat code), code := code,
              index := index + 1, bias := adapt s.first delta count, first := false } cs
        else none

/-- The label that is written so. -/
def decode? (written : List Char) : Option (List Char) :=
  if maxDecoded < written.length then none
  else
    let (tail, head) := written.reverse.span (· != '-')
    match head with
    | [] => insertions ⟨[], firstCode, 0, firstBias, true, 0, 1, 36⟩ written
    | _ :: [] => none
    | _ :: basic =>
      if basic.all (·.toNat < firstCode) then
        insertions ⟨basic.reverse, firstCode, 0, firstBias, true, 0, 1, 36⟩ tail.reverse
      else none

/-! ## Writing -/

/-- The digits of a number, from a place on. -/
def writeNumber (bias place n : Nat) : List Char :=
  let t := threshold bias place
  if n < t then [digitChar n]
  else
    digitChar (t + (n - t) % (36 - t)) :: writeNumber bias (place + 36) ((n - t) / (36 - t))
termination_by n
decreasing_by
  have ht := threshold_pos bias place
  have hd := Nat.div_le_self (n - threshold bias place) (36 - threshold bias place)
  omega

/-- Where a writer of insertions stands. -/
structure Progress where
  /-- The digits so far, backwards. -/
  out : List Char := []
  /-- The code point whose insertions come next. -/
  code : Nat := firstCode
  /-- The steps since the last insertion. -/
  delta : Nat := 0
  bias : Nat := firstBias
  first : Bool := true
  /-- How many characters of the label are in place. -/
  count : Nat

/-- Passes a character of the label: one that is in place already is a step, and one of the code
point at hand is inserted. -/
def Progress.pass (p : Progress) (c : Char) : Progress :=
  if c.toNat < p.code then { p with delta := p.delta + 1 }
  else if c.toNat = p.code then
    { p with
      out := (writeNumber p.bias 36 p.delta).reverse ++ p.out
      delta := 0
      bias := adapt p.first p.delta (p.count + 1)
      first := false
      count := p.count + 1 }
  else p

/-- Makes all insertions of one code point. -/
def Progress.round (label : List Char) (p : Progress) (code : Nat) : Progress :=
  let p := { p with delta := p.delta + (code - p.code) * (p.count + 1), code := code }
  let p := label.foldl Progress.pass p
  { p with delta := p.delta + 1, code := code + 1 }

/-- The code points of a label outside ASCII, in ascending order, each once. -/
def foreignCodes (label : List Char) : List Nat :=
  (((label.map Char.toNat).filter (firstCode ≤ ·)).mergeSort).eraseDups

/-- The label in ASCII. -/
def encode? (label : List Char) : Option (List Char) :=
  if maxEncoded < label.length then none
  else
    let basic := label.filter (·.toNat < firstCode)
    let start : Progress := ⟨[], firstCode, 0, firstBias, true, basic.length⟩
    let done := (foreignCodes label).foldl (Progress.round label) start
    some (basic ++ (if basic.isEmpty then [] else ['-']) ++ done.out.reverse)

end TrackerGuard.Idna.Punycode
