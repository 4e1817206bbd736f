import TrackerGuard.Suffix.Tree
import TrackerGuard.Host.Basic
import TrackerGuard.Idna.Domain

/-!
# Lists of suffix rules

A list is a text with a rule to a line.  Rules count only below a heading, of which there are two;
lines that begin with two slashes are comments, and what follows the first word of a line is
ignored.  A rule that begins with an exclamation mark is an exception.  Each rule is added twice, as
it is written and in ASCII, so that hosts are found in either form.

Reading stops at the first line that is not a rule, and a list without any rule is not one.
-/

namespace TrackerGuard

/-- What is wrong with a list of suffix rules. -/
inductive SuffixFault where
  /-- An exception of a single label. -/
  | shortException (rule : String)
  /-- A rule with nothing before, after or between its full stops. -/
  | emptyLabel (rule : String)
  /-- A rule that has no form in ASCII. -/
  | invalidRule (rule : String)
  /-- A list without rules. -/
  | noRules
  deriving DecidableEq, Repr

/-- What a fault says of a list. -/
def SuffixFault.reason : SuffixFault → String
  | .shortException rule => "`" ++ rule ++ "`; exceptions only valid at end of rule"
  | .emptyLabel rule => "rule `" ++ rule ++ "` contains an empty label"
  | .invalidRule rule => "rule `" ++ rule ++ "` is invalid"
  | .noRules => "the provided list is not valid"

/-- The wording of a fault. -/
def SuffixFault.message (f : SuffixFault) : String := "Invalid public suffix list: " ++ f.reason

namespace SuffixTree

/-- The headings below which rules count. -/
def headings : List (List Char) :=
  ["BEGIN ICANN DOMAINS".toList, "BEGIN PRIVATE DOMAINS".toList]

/-- Whether a text has a part. -/
def hasPart (part : List Char) : List Char → Bool
  | [] => part.isEmpty
  | c :: cs => part.isPrefixOf (c :: cs) || hasPart part cs

/-- Whether a line is a heading. -/
def isHeading (line : List Char) : Bool := headings.any (hasPart · line)

/-- Whether a line is a comment. -/
def isComment : List Char → Bool
  | '/' :: '/' :: _ => true
  | _ => false

/-- Adds a name with a mark. -/
def addName (mark : Mark) (name : String) (t : SuffixTree) : Except SuffixFault SuffixTree :=
  let labels := Host.labels name
  if labels.contains "" then .error (.emptyLabel name) else .ok (t.insert mark labels.reverse)

/-- Adds a rule as it is written. -/
def addRule (rule : String) (t : SuffixTree) : Except SuffixFault SuffixTree :=
  match rule.toList with
  | '!' :: name =>
    if name.contains '.' then addName .exception (String.ofList name) t
    else .error (.shortException rule)
  | _ => addName .suffix rule t

/-- Adds a rule in both forms. -/
def addBoth (rule : String) (t : SuffixTree) : Except SuffixFault SuffixTree := do
  let t ← addRule rule t
  match Idna.toAscii? rule with
  | none => .error (.invalidRule rule)
  | some ascii => addRule ascii t

/-- Reads a line; `counts` tells whether a heading stands before it. -/
def readLine (counts : Bool) (t : SuffixTree) (line : List Char) :
    Except SuffixFault (Bool × SuffixTree) :=
  if isHeading line then .ok (true, t)
  else if isComment line || !counts then .ok (counts, t)
  else
    match Text.words line with
    | [] => .ok (counts, t)
    | rule :: _ => (addBoth (String.ofList rule) t).map fun t => (counts, t)

/-- Reads lines in order. -/
def readLines (counts : Bool) (t : SuffixTree) : List (List Char) → Except SuffixFault SuffixTree
  | [] => .ok t
  | line :: lines => do
    let (counts, t) ← readLine counts t line
    readLines counts t lines

/-- The rules of a list. -/
def ofText (text : String) : Except SuffixFault SuffixTree := do
  let t ← readLines false empty (text.toList.splitOn '\n')
  if t.children.isEmpty then .error .noRules else pure t

end SuffixTree

end TrackerGuard
