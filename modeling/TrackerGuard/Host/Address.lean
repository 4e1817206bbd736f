import TrackerGuard.Host.Basic
import TrackerGuard.Text.CodeRanges

/-!
# Numeric addresses

A host may be a numeric address instead of a name.  Two notations count: four decimal numbers below
256 without leading zeros, and eight groups of up to four hexadecimal digits, of which one run of
zero groups may be left out (`::`) and the last two may be written as four decimal numbers.  An
address in brackets is not looked into.
-/

namespace TrackerGuard.Host

/-- Splits off a decimal number below 256 without leading zeros. -/
def octet? (cs : List Char) : Option (List Char) :=
  let (ds, rest) := cs.span Char.isDigit
  let n := ds.foldl (fun n c => n * 10 + (c.toNat - 48)) 0
  if ds.isEmpty || 3 < ds.length || 255 < n || (ds.head? = some '0' && ds.length ≠ 1) then none
  else some rest

/-- Splits off four decimal numbers with full stops between them. -/
def dotted? (cs : List Char) : Option (List Char) := do
  let cs ← octet? cs
  let cs ← next cs
  let cs ← next cs
  next cs
where
  /-- Splits off a full stop and a number. -/
  next : List Char → Option (List Char)
    | '.' :: cs => octet? cs
    | _ => none

/-- Splits off a group of one to four hexadecimal digits. -/
def group? (cs : List Char) : Option (List Char) :=
  let (ds, rest) := cs.span fun c => (Text.hexValue? c).isSome
  if ds.isEmpty || 4 < ds.length then none else some rest

/-- Passes over a colon, unless it is the first group that follows. -/
def separator? (first : Bool) (cs : List Char) : Option (List Char) :=
  if first then some cs
  else
    match cs with
    | ':' :: cs => some cs
    | _ => none

/-- Splits off groups with colons between them, at most `limit`; four decimal numbers count for two
groups and end the run.  Returns how many groups were read, whether the run ended so, and the rest
of the text. -/
def groups (first : Bool) (count : Nat) : (limit : Nat) → List Char → Nat × Bool × List Char
  | 0, cs => (count, false, cs)
  | limit + 1, cs =>
    match (if limit = 0 then none else separator? first cs >>= dotted?) with
    | some rest => (count + 2, true, rest)
    | none =>
      match separator? first cs >>= group? with
      | some rest => groups false (count + 1) limit rest
      | none => (count, false, cs)

/-- Whether the text is eight groups, with the zeros of one run left out or not. -/
def isGrouped (cs : List Char) : Bool :=
  match groups true 0 8 cs with
  | (8, _, rest) => rest.isEmpty
  | (_, true, _) => false
  | (count, false, ':' :: ':' :: rest) =>
    let (_, _, rest) := groups true 0 (7 - count) rest
    rest.isEmpty
  | _ => false

/-- Whether the text is four decimal numbers. -/
def isDotted (cs : List Char) : Bool := dotted? cs == some []

/-- Whether the host is a numeric address. -/
def isAddress (host : String) : Bool :=
  let cs := host.toList
  cs.head? == some '[' || isDotted cs || isGrouped cs

end TrackerGuard.Host
