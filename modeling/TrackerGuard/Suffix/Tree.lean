import TrackerGuard.Text.Dictionary

/-!
# Suffix rules

A public suffix is the part of a host name under which anyone may register a name.  Suffixes are
given by rules: a plain rule names a suffix, a rule whose first label is `*` makes every label under
a suffix part of one, and an exception takes a name out of such a rule again.

The rules are kept in a tree by their labels from the right.  `SuffixTree.insert` adds a rule and
`SuffixTree.suffixLength` says how many labels of a host are its suffix.  On the way down the child
of the exact name comes before the child `*`.  The rightmost label is a suffix whatever the rules
say, and `*` does not stand for it.
-/

namespace TrackerGuard

/-- What ends at a node of the tree. -/
inductive SuffixTree.Mark where
  /-- A rule that names a suffix. -/
  | suffix
  /-- A rule that takes a name out of a suffix. -/
  | exception
  deriving DecidableEq, Repr

/-- Suffix rules, by their labels from the right. -/
inductive SuffixTree where
  | node (mark : Option SuffixTree.Mark) (children : List (String × SuffixTree))

namespace SuffixTree

/-- No rules. -/
def empty : SuffixTree := .node none []

/-- What ends here. -/
def mark? : SuffixTree → Option Mark
  | .node mark _ => mark

/-- The nodes below, by label. -/
def children : SuffixTree → Dictionary SuffixTree
  | .node _ children => children

/-- The node of a label. -/
def child? (label : String) (t : SuffixTree) : Option SuffixTree := t.children.find? label

/-- The node to which a label leads: its own, or else that of `*`. -/
def next? (label : String) (t : SuffixTree) : Option SuffixTree :=
  (t.child? label).or (t.child? "*")

/-- Adds a rule, given by its labels from the right. -/
def insert (mark : Mark) : List String → SuffixTree → SuffixTree
  | [], t => .node (some mark) t.children
  | label :: labels, t =>
    .node t.mark? (t.children.insert label (insert mark labels ((t.child? label).getD empty)))

/-- Goes down from a node that was reached by `passed` labels, `found` of which are a suffix
already. -/
def descend (found passed : Nat) : SuffixTree → List String → Nat
  | _, [] => found
  | t, label :: labels =>
    match t.next? label with
    | none => found
    | some t =>
      match t.mark? with
      | none => descend found (passed + 1) t labels
      | some .suffix => descend (passed + 1) (passed + 1) t labels
      | some .exception => passed

/-- How many labels of a host, given from the right, are its suffix. -/
def suffixLength (t : SuffixTree) : List String → Nat
  | [] => 0
  | label :: labels =>
    match t.child? label with
    | none => 1
    | some t => descend 1 1 t labels

end SuffixTree

end TrackerGuard
