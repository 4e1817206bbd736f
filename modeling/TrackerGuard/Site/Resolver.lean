import TrackerGuard.Suffix.Document
import TrackerGuard.Host.Address

/-!
# Sites

The site of a host is its registrable domain: its public suffix and one label more.  All hosts of a
site belong to one owner, so requests within a site are not tracking, and exemptions are kept by
site.  A numeric address is a site of its own, and so is a host that is no longer than its suffix.

A resolver knows suffixes from a list or, without one, by a rule of thumb: two labels for the names
of `twoPartSuffixes` and one label for everything else.
-/

namespace TrackerGuard

/-- What the suffixes of hosts are taken from. -/
inductive Resolver where
  /-- The rule of thumb. -/
  | builtIn
  /-- The rules of a list. -/
  | rules (tree : SuffixTree)

namespace Resolver

/-- Suffixes of two labels that are common. -/
def twoPartSuffixes : List (String × String) :=
  [("co", "uk"), ("co", "jp"), ("co", "nz"), ("co", "za"), ("co", "in"), ("co", "kr"),
   ("com", "au"), ("com", "br"), ("com", "cn"), ("com", "mx"), ("com", "tw"), ("com", "hk"),
   ("net", "au"), ("net", "nz"), ("org", "uk"), ("org", "au"), ("gov", "uk"), ("gov", "au"),
   ("ac", "uk"), ("ac", "jp"), ("ne", "jp"), ("or", "jp")]

/-- How many labels of a host, given from the right, are its suffix by the rule of thumb. -/
def usualLength : List String → Nat
  | last :: second :: _ => if twoPartSuffixes.contains (second, last) then 2 else 1
  | labels => labels.length

/-- How many labels of a host, given from the right, are its suffix. -/
def suffixLength (r : Resolver) (labels : List String) : Nat :=
  match r with
  | .builtIn => usualLength labels
  | .rules tree => tree.suffixLength labels

/-- Whether the resolver has a list. -/
def hasRules : Resolver → Bool
  | .builtIn => false
  | .rules _ => true

/-- The site of a host in normal form. -/
def site (r : Resolver) (host : String) : String :=
  if Host.isAddress host then host
  else
    let labels := (Host.labels host).reverse
    Host.ofLabels (labels.take (r.suffixLength labels + 1)).reverse

/-- The site of a host as it is written. -/
def registrable (r : Resolver) (host : String) : String := r.site (Host.normalize host)

/-- Whether two hosts belong to the same site. -/
def sameSite (r : Resolver) (a b : String) : Bool := r.registrable a == r.registrable b

/-- The resolver of a list of suffix rules, or the built-in one without a list. -/
def ofText? (text : Option String) : Except SuffixFault Resolver :=
  match text with
  | none => .ok .builtIn
  | some text => (SuffixTree.ofText text).map .rules

end Resolver

end TrackerGuard
