import TrackerGuard.Idna.CompositionTable
import Std.Data.HashMap

/-!
# Canonical composition

The same text can be spelled with composed characters or with letters and marks.  `compose` brings
all spellings of a text to one: every character is taken apart, the marks after a letter are sorted
by their class, and then each mark, or vowel and final of a syllable, joins the character before it
where the two have a composed form and no mark of the same or a higher class stands between.
-/

namespace TrackerGuard.Idna

open Text

/-- Cuts a token at its equals sign. -/
def splitEntry (token : List Char) : List Char × List Char :=
  let (key, value) := token.span (· != '=')
  (key, value.drop 1)

/-- The tokens of lines. -/
def tokens (lines : List String) : List (List Char) :=
  lines.flatMap fun line => (line.toList.splitOn ' ').filter (!·.isEmpty)

/-- Code points with full stops between them. -/
def codePoints (cs : List Char) : List Nat := (cs.splitOn '.').map hexNumber

/-- The characters that are made of others, with what they are made of. -/
def decompositions : List (Nat × List Nat) :=
  (tokens decompositionLines).map fun token =>
    let (key, value) := splitEntry token
    (hexNumber key, codePoints value)

/-- Decompositions by the composed character. -/
def partsByCode : Std.HashMap Nat (List Nat) := .ofList decompositions

/-- Composed characters by their two parts. -/
def codeByParts : Std.HashMap (Nat × Nat) Nat :=
  .ofList (decompositions.filterMap fun (code, parts) =>
    match parts with
    | [a, b] => if uncomposed.mem (Char.ofNat code) then none else some ((a, b), code)
    | _ => none)

/-- Reads a class and the code points that have it. -/
def classEntry (token : List Char) : List (Nat × Nat) :=
  let (key, value) := splitEntry token
  let (first, last) := CodeRanges.range key
  let rank := value.foldl (fun n c => 10 * n + (c.toNat - 48)) 0
  (List.range (last + 1 - first)).map fun i => (first + i, rank)

/-- Classes of marks by code point. -/
def classByCode : Std.HashMap Nat Nat := .ofList ((tokens markClassLines).flatMap classEntry)

/-- The class of a character: zero unless it is a mark that moves. -/
def markClass (c : Char) : Nat := classByCode.getD c.toNat 0

/-! ## Syllables -/

/-- The first syllable of Hangul. -/
def firstSyllable : Nat := 0xAC00

/-- The first leading consonant. -/
def firstLead : Nat := 0x1100

/-- The first vowel. -/
def firstVowel : Nat := 0x1161

/-- The code point before the first final consonant. -/
def finalBase : Nat := 0x11A7

/-- A syllable taken apart. -/
def syllableParts? (n : Nat) : Option (List Nat) :=
  if firstSyllable ≤ n && n < firstSyllable + 11172 then
    let i := n - firstSyllable
    let body := [firstLead + i / 588, firstVowel + i % 588 / 28]
    some (if i % 28 = 0 then body else body ++ [finalBase + i % 28])
  else none

/-- The syllable of a consonant and a vowel, or of a syllable without final and a final. -/
def syllable? (a b : Nat) : Option Nat :=
  if firstLead ≤ a && a < firstLead + 19 && firstVowel ≤ b && b < firstVowel + 21 then
    some (firstSyllable + ((a - firstLead) * 21 + (b - firstVowel)) * 28)
  else if firstSyllable ≤ a && a < firstSyllable + 11172 && (a - firstSyllable) % 28 = 0 &&
      finalBase < b && b < finalBase + 28 then
    some (a + (b - finalBase))
  else none

/-! ## Taking apart and putting together -/

/-- A code point taken apart, as far as `depth` steps go. -/
def decomposeCode : (depth : Nat) → Nat → List Nat
  | 0, n => [n]
  | depth + 1, n =>
    match syllableParts? n with
    | some parts => parts
    | none =>
      match partsByCode[n]? with
      | some parts => parts.flatMap (decomposeCode depth)
      | none => [n]

/-- No character takes more steps to be taken apart. -/
def decompositionDepth : Nat := 6

/-- Sorts runs of marks by their class; `marks` is the run before the text, backwards. -/
def orderMarks (marks : List Char) : List Char → List Char
  | [] => sorted marks
  | c :: cs =>
    if markClass c = 0 then sorted marks ++ c :: orderMarks [] cs
    else orderMarks (c :: marks) cs
where
  /-- A run, given backwards, in the order of the classes. -/
  sorted (marks : List Char) : List Char :=
    marks.reverse.mergeSort fun a b => markClass a ≤ markClass b

/-- The text taken apart, with its marks in order. -/
def decompose (cs : List Char) : List Char :=
  orderMarks [] (cs.flatMap fun c =>
    (decomposeCode decompositionDepth c.toNat).map Char.ofNat)

/-- The composed form of two characters. -/
def pair? (a b : Char) : Option Char :=
  match syllable? a.toNat b.toNat with
  | some n => some (Char.ofNat n)
  | none => codeByParts[(a.toNat, b.toNat)]?.map Char.ofNat

/-- Puts characters together.  `base` is the last character that others may join, and `kept` are
the marks after it that did not join, backwards. -/
def recompose (base : Option Char) (kept : List Char) : List Char → List Char
  | [] => base.toList ++ kept.reverse
  | c :: cs =>
    let rank := markClass c
    let free := match kept with
      | [] => true
      | m :: _ => markClass m < rank
    match (if free then base.bind (pair? · c) else none) with
    | some joined => recompose (some joined) kept cs
    | none =>
      if rank = 0 then base.toList ++ kept.reverse ++ recompose (some c) [] cs
      else recompose base (c :: kept) cs

/-- The composed spelling of a text.  Text below the first mark is composed as it is. -/
def compose (cs : List Char) : List Char :=
  if cs.all (·.toNat < 0x300) then cs else recompose none [] (decompose cs)

end TrackerGuard.Idna
