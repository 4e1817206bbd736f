import TrackerGuard.Json.Reader
import TrackerGuard.Storage.File
import TrackerGuard.Text.Lowercase
import Std.Data.HashSet

/-!
# Tracker lists

A tracker list is a JSON list of domains.  Items that are no texts, and texts that are blank or dots
only, do not count; the others are brought to a normal form, and of those that come to the same only
the first is kept.  The order of the list is the order of the domains.
-/

namespace TrackerGuard

/-- Why a tracker list could not be loaded. -/
inductive TrackerList.Fault where
  | io (cause : IoError)
  | malformed (cause : Json.Fault)
  /-- JSON, but not a list. -/
  | notAList
  deriving DecidableEq, Repr

namespace TrackerList

/-- The normal form of an entry: without blanks and then without full stops at its ends, and in
lower case.  An entry of which nothing is left has none. -/
def normalForm? (entry : String) : Option String :=
  let cs := Text.stripDots (Text.trim entry.toList)
  if cs.isEmpty then none else some (String.ofList (Text.toLower cs))

/-- The texts that were not `seen` before, each at its first place; `out` collects them
backwards. -/
def firstOccurrencesFrom (seen : Std.HashSet String) (out : List String) :
    List String → List String
  | [] => out.reverse
  | s :: rest =>
    if seen.contains s then firstOccurrencesFrom seen out rest
    else firstOccurrencesFrom (seen.insert s) (s :: out) rest

/-- The texts without repeats, each at its first place. -/
def firstOccurrences (texts : List String) : List String := firstOccurrencesFrom ∅ [] texts

/-- The domains of the items of a list. -/
def ofItems (items : List Json) : List String :=
  firstOccurrences ((items.filterMap Json.text?).filterMap normalForm?)

/-- The domains of a JSON value. -/
def ofJson : Json → Except Fault (List String)
  | .list items => .ok (ofItems items)
  | _ => .error .notAList

/-- The domains of a text. -/
def ofText (text : String) : Except Fault (List String) :=
  match Json.read text with
  | .ok v => ofJson v
  | .error fault => .error (.malformed fault)

/-- The domains of a file. -/
def ofFile {φ : Type} [TextFile φ] (file : φ) : Except Fault (List String) :=
  match TextFile.read file with
  | .ok text => ofText text
  | .error e => .error (.io e)

end TrackerList

end TrackerGuard
