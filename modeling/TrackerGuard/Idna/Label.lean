import TrackerGuard.Idna.LabelTable
import TrackerGuard.Idna.Mapping
import TrackerGuard.Idna.Punycode

/-!
# Valid labels

What a label of an internationalized domain name must satisfy after mapping and composition: its
characters are such as the mapping keeps, it is composed, it does not begin with a mark, and the two
invisible joiners stand only where they change how letters are shown.  A domain name with letters
written from right to left has a further condition on each of its labels.
-/

namespace TrackerGuard.Idna

open Text

/-- The zero width non-joiner. -/
def nonJoiner : Char := '\u200c'

/-- The zero width joiner. -/
def joiner : Char := '\u200d'

/-- Whether the letter that follows would be joined to the one before: between them there are only
characters that joining looks through. -/
def separatesJoined (before after : List Char) : Bool :=
  ((before.dropWhile joinsThrough.mem).head?.any joinsLeft.mem) &&
    ((after.dropWhile joinsThrough.mem).head?.any joinsRight.mem)

/-- Whether every joiner has its place, given the text before, backwards: behind a mark that
silences a vowel, or, for the non-joiner, between letters that would join. -/
def joinersFit (before : List Char) : List Char → Bool
  | [] => true
  | c :: cs =>
    let fits :=
      if c = nonJoiner then before.head?.any virama.mem || separatesJoined before cs
      else if c = joiner then before.head?.any virama.mem
      else true
    fits && joinersFit (c :: before) cs

/-- Whether a label may stand in a domain name that has none of the letters written from right to
left. -/
def isValid (label : List Char) : Bool :=
  label.all (fun c => fate c == .kept) && compose label == label &&
    !label.head?.any combining.mem && joinersFit [] label

/-! ## Direction -/

/-- The directions that the rule tells apart. -/
inductive Direction where
  | leftToRight
  | rightToLeft
  | arabicNumber
  | europeanNumber
  | nonspacing
  | neutral
  | undirected
  deriving DecidableEq, Repr

/-- The direction of a character. -/
def direction (c : Char) : Direction :=
  if rightToLeft.mem c then .rightToLeft
  else if arabicNumber.mem c then .arabicNumber
  else if europeanNumber.mem c then .europeanNumber
  else if nonspacing.mem c then .nonspacing
  else if neutral.mem c then .neutral
  else if undirected.mem c then .undirected
  else .leftToRight

/-- Whether the label has letters or digits that are written from right to left. -/
def hasRightToLeft (label : List Char) : Bool :=
  label.any fun c => direction c == .rightToLeft || direction c == .arabicNumber

/-- Whether a label keeps to one direction.  It begins with a letter of its direction and ends,
marks aside, with such a letter or a number, and only characters that go with the direction stand
between; digits of both sorts do not meet. -/
def keepsDirection (label : List Char) : Bool :=
  let ds := label.map direction
  let last := (ds.reverse.dropWhile (· == .nonspacing)).head?
  match ds.head? with
  | none => true
  | some .rightToLeft =>
    ds.all (fun d => d != .leftToRight && d != .undirected) &&
      last.any (fun d => d == .rightToLeft || d == .europeanNumber || d == .arabicNumber) &&
      !(ds.contains .europeanNumber && ds.contains .arabicNumber)
  | some .leftToRight =>
    ds.all (fun d => d != .rightToLeft && d != .arabicNumber && d != .undirected) &&
      last.any (fun d => d == .leftToRight || d == .europeanNumber)
  | some _ => false

end TrackerGuard.Idna
