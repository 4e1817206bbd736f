import TrackerGuard.Text.Blank
import TrackerGuard.Text.Lowercase

/-!
# Host names

Hosts are compared in a normal form: without blanks and then without full stops at the ends, and
with the letters `A` to `Z` lowered.  A host is made of labels with full stops between them.
-/

namespace TrackerGuard.Host

/-- The normal form of a host name. -/
def normalize (host : String) : String :=
  String.ofList (Text.asciiLower (Text.stripDots (Text.trim host.toList)))

/-- The labels of a host name, from left to right. -/
def labels (host : String) : List String := (host.toList.splitOn '.').map String.ofList

/-- The host name of labels. -/
def ofLabels (labels : List String) : String := ".".intercalate labels

/-- Letters, digits and hyphens. -/
def isLabelChar (c : Char) : Bool := c.isAlphanum || c == '-'

/-- A label of letters, digits and hyphens, at least one. -/
def IsLabel (label : List Char) : Prop := label ≠ [] ∧ ∀ c ∈ label, isLabelChar c

/-- A host name all of whose labels are made of letters, digits and hyphens. -/
def IsName (host : String) : Prop := ∀ label ∈ host.toList.splitOn '.', IsLabel label

/-- `host` is `domain` or one of its subdomains. -/
def Within (host domain : String) : Prop :=
  host = domain ∨ ∃ front : List Char, host.toList = front ++ '.' :: domain.toList

end TrackerGuard.Host
