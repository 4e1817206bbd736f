import TrackerGuard.Rule.Basic
import TrackerGuard.Json.Shape

/-!
# Rule documents

A rule list is stored as one line of JSON.  Writing is deterministic: the fields stand in a fixed
order, an absent list is left out, and whether the filter is case sensitive is always said.

Reading accepts more than writing produces.  The members of a record may come in any order, with
strangers among them, or the record may be written as a list of its fields.  An action is told by
its member `type`, which may stand anywhere in it, so that what else the action holds is gathered
first and looked at when the action is complete.
-/

namespace TrackerGuard

open Json

/-! ## Writing -/

/-- A list of names or texts. -/
def writeTexts (xs : List String) : List Char := bracket (xs.map writeText)

/-- A member with a list, or nothing when there is no list. -/
def writeList? (name : String) (xs : Option (List String)) : List (List Char) :=
  match xs with
  | none => []
  | some xs => [writeMember name (writeTexts xs)]

/-- The members of a trigger. -/
def Trigger.write (t : Trigger) : List Char :=
  brace ([writeMember "url-filter" (writeText t.urlFilter),
      writeMember "url-filter-is-case-sensitive" (writeBool t.caseSensitive)] ++
    writeList? "if-domain" t.ifDomain ++
    writeList? "unless-domain" t.unlessDomain ++
    writeList? "resource-type" (t.resourceType.map (·.map ResourceType.name)) ++
    writeList? "load-type" (t.loadType.map (·.map LoadType.name)) ++
    writeList? "if-top-url" t.ifTopUrl ++
    writeList? "unless-top-url" t.unlessTopUrl)

/-- The members of an action: its type and, if it has one, its selector. -/
def Action.write (a : Action) : List Char :=
  let type := writeMember "type" (writeText a.kindName)
  match a with
  | .cssDisplayNone selector => brace [type, writeMember "selector" (writeText selector)]
  | _ => brace [type]

/-- A rule. -/
def Rule.write (r : Rule) : List Char :=
  brace [writeMember "trigger" r.trigger.write, writeMember "action" r.action.write]

/-- The document of a rule list. -/
def Rule.writeAll (rules : List Rule) : String :=
  String.ofList (bracket (rules.map Rule.write))

/-! ## Reading an action -/

/-- What an action holds beside its type: the other members, or the other items. -/
inductive Action.Content where
  | members (entries : List (String × Json))
  | items (values : List Json)

/-- Reads the type of an action. -/
def Action.readKind : Reader Action.Kind := fun cs => do
  let (name, rest) ← textAs "variant identifier" cs
  pure (← variant (Action.Kind.all.map fun k => (k.name, k)) name, rest)

/-- Reads a member of an action: its type, or something to be looked at later.  The entries are
gathered backwards. -/
def Action.readMember (bound depth : Nat) (acc : Option Action.Kind × List (String × Json))
    (name : String) : Reader (Option Action.Kind × List (String × Json)) := fun cs =>
  if name = "type" then do
    let (kind, rest) ← field name acc.1 Action.readKind cs
    pure ((kind, acc.2), rest)
  else do
    let ((), cs) ← readColon cs
    let (v, rest) ← readValue bound depth cs
    pure ((acc.1, (name, v) :: acc.2), rest)

/-- Reads the items of an action, after its type, up to the end of the list. -/
def Action.readItems (bound depth : Nat) : Nat → List Json → Reader (List Json)
  | 0, _, _ => .error .malformed
  | more + 1, out, cs => do
    match ← nextItem? false cs with
    | none => pure (out.reverse, cs)
    | some cs =>
      let (v, rest) ← readValue bound depth cs
      Action.readItems bound depth more (v :: out) rest

/-- Reads an action that is written as a list, without the closing bracket. -/
def Action.readAsList (bound depth : Nat) : Reader (Action.Kind × Action.Content) := fun cs => do
  let (kind, cs) ← fieldAt 0 Action.readKind cs
  let kind ← required "type" kind
  let (values, rest) ← Action.readItems bound depth bound [] cs
  pure ((kind, .items values), rest)

/-- Reads an action that is written as an object. -/
def Action.readAsObject (bound depth : Nat) : Reader (Action.Kind × Action.Content) := fun cs => do
  let ((kind, entries), rest) ← readMembers bound (Action.readMember bound depth) (none, []) cs
  let kind ← required "type" kind
  pure ((kind, .members entries.reverse), rest)

/-- A text, or the fault of another value in its place. -/
def asText (v : Json) : Except Fault String :=
  match v with
  | .text s => .ok s
  | _ => .error (.mismatch (.wrongType (found v) "a string"))

/-- The selector among the members of an action, read from left to right. -/
def selectorOf (before : Option String) : List (String × Json) → Except Fault String
  | [] => required "selector" before
  | (name, v) :: rest =>
    if name = "selector" then
      if before.isSome then .error (.mismatch (.duplicateField name))
      else do selectorOf (some (← asText v)) rest
    else selectorOf before rest

/-- The action of a kind with the given content. -/
def Action.ofContent (kind : Action.Kind) (content : Action.Content) : Except Fault Action :=
  let plain (a : Action) : Except Fault Action :=
    match content with
    | .members _ | .items [] => .ok a
    | .items values => .error (.mismatch (.wrongLength values.length "0 elements in sequence"))
  match kind with
  | .block => plain .block
  | .blockCookies => plain .blockCookies
  | .makeHttps => plain .makeHttps
  | .ignorePreviousRules => plain .ignorePreviousRules
  | .cssDisplayNone =>
    match content with
    | .members entries => return .cssDisplayNone (← selectorOf none entries)
    | .items [] =>
      .error (.mismatch
        (.wrongLength 0 "struct variant Action::CssDisplayNone with 1 element"))
    | .items (v :: rest) => do
      let selector ← asText v
      if rest.isEmpty then pure (.cssDisplayNone selector)
      else .error (.mismatch (.wrongLength (rest.length + 1) "1 element in sequence"))

/-- Reads an action. -/
def Action.read (bound depth : Nat) : Reader Action := fun cs => do
  let ((kind, content), rest) ← record "internally tagged enum Action" depth
    (Action.readAsList bound) (Action.readAsObject bound) cs
  pure (← Action.ofContent kind content, rest)

/-! ## Reading a trigger -/

/-- The fields of a trigger that have been read so far; the inner option of a list is its absence
written out as `null`. -/
structure Trigger.Fields where
  urlFilter : Option String := none
  caseSensitive : Option Bool := none
  ifDomain : Option (Option (List String)) := none
  unlessDomain : Option (Option (List String)) := none
  resourceType : Option (Option (List ResourceType)) := none
  loadType : Option (Option (List LoadType)) := none
  ifTopUrl : Option (Option (List String)) := none
  unlessTopUrl : Option (Option (List String)) := none

/-- Reads a list of texts, or `null`. -/
def readTexts? (bound depth : Nat) : Reader (Option (List String)) :=
  optional (listOf bound depth fun _ => string)

/-- Reads a list of resource types, or `null`. -/
def readResourceTypes? (bound depth : Nat) : Reader (Option (List ResourceType)) :=
  optional (listOf bound depth (choice · (ResourceType.all.map fun t => (t.name, t))))

/-- Reads a list of load types, or `null`. -/
def readLoadTypes? (bound depth : Nat) : Reader (Option (List LoadType)) :=
  optional (listOf bound depth (choice · (LoadType.all.map fun t => (t.name, t))))

namespace Trigger

/-- Reads a member of a trigger. -/
def readMember (bound depth : Nat) (t : Fields) (name : String) : Reader Fields := fun cs =>
  match name with
  | "url-filter" => do
    let (x, cs) ← field name t.urlFilter string cs
    pure ({ t with urlFilter := x }, cs)
  | "url-filter-is-case-sensitive" => do
    let (x, cs) ← field name t.caseSensitive boolean cs
    pure ({ t with caseSensitive := x }, cs)
  | "if-domain" => do
    let (x, cs) ← field name t.ifDomain (readTexts? bound depth) cs
    pure ({ t with ifDomain := x }, cs)
  | "unless-domain" => do
    let (x, cs) ← field name t.unlessDomain (readTexts? bound depth) cs
    pure ({ t with unlessDomain := x }, cs)
  | "resource-type" => do
    let (x, cs) ← field name t.resourceType (readResourceTypes? bound depth) cs
    pure ({ t with resourceType := x }, cs)
  | "load-type" => do
    let (x, cs) ← field name t.loadType (readLoadTypes? bound depth) cs
    pure ({ t with loadType := x }, cs)
  | "if-top-url" => do
    let (x, cs) ← field name t.ifTopUrl (readTexts? bound depth) cs
    pure ({ t with ifTopUrl := x }, cs)
  | "unless-top-url" => do
    let (x, cs) ← field name t.unlessTopUrl (readTexts? bound depth) cs
    pure ({ t with unlessTopUrl := x }, cs)
  | _ => stranger bound t cs

/-- The trigger of the fields that were read, given its filter. -/
def ofFields (urlFilter : String) (t : Fields) : Trigger where
  urlFilter := urlFilter
  caseSensitive := t.caseSensitive.getD false
  ifDomain := t.ifDomain.join
  unlessDomain := t.unlessDomain.join
  resourceType := t.resourceType.join
  loadType := t.loadType.join
  ifTopUrl := t.ifTopUrl.join
  unlessTopUrl := t.unlessTopUrl.join

/-- Reads a trigger that is written as an object. -/
def readAsObject (bound depth : Nat) : Reader Trigger := fun cs => do
  let (t, rest) ← readMembers bound (readMember bound depth) {} cs
  let urlFilter ← required "url-filter" t.urlFilter
  pure (ofFields urlFilter t, rest)

/-- Reads a trigger that is written as a list, without the closing bracket.  Only the filter must be
there. -/
def readAsList (bound depth : Nat) : Reader Trigger := fun cs => do
  let (urlFilter, cs) ← fieldAt 0 string cs
  let urlFilter ← requiredAt 0 "struct Trigger with 8 elements" urlFilter
  let (caseSensitive, cs) ← fieldAt 1 boolean cs
  let (ifDomain, cs) ← fieldAt 2 (readTexts? bound depth) cs
  let (unlessDomain, cs) ← fieldAt 3 (readTexts? bound depth) cs
  let (resourceType, cs) ← fieldAt 4 (readResourceTypes? bound depth) cs
  let (loadType, cs) ← fieldAt 5 (readLoadTypes? bound depth) cs
  let (ifTopUrl, cs) ← fieldAt 6 (readTexts? bound depth) cs
  let (unlessTopUrl, cs) ← fieldAt 7 (readTexts? bound depth) cs
  pure (ofFields urlFilter ⟨urlFilter, caseSensitive, ifDomain, unlessDomain, resourceType,
    loadType, ifTopUrl, unlessTopUrl⟩, cs)

/-- Reads a trigger. -/
def read (bound depth : Nat) : Reader Trigger :=
  record "struct Trigger" depth (readAsList bound) (readAsObject bound)

end Trigger

/-! ## Reading rules -/

namespace Rule

/-- Reads a member of a rule. -/
def readMember (bound depth : Nat) (r : Option Trigger × Option Action) (name : String) :
    Reader (Option Trigger × Option Action) := fun cs =>
  match name with
  | "trigger" => do
    let (x, cs) ← field name r.1 (Trigger.read bound depth) cs
    pure ((x, r.2), cs)
  | "action" => do
    let (x, cs) ← field name r.2 (Action.read bound depth) cs
    pure ((r.1, x), cs)
  | _ => stranger bound r cs

/-- Reads a rule that is written as an object. -/
def readAsObject (bound depth : Nat) : Reader Rule := fun cs => do
  let ((trigger, action), rest) ← readMembers bound (readMember bound depth) (none, none) cs
  let trigger ← required "trigger" trigger
  let action ← required "action" action
  pure (⟨trigger, action⟩, rest)

/-- Reads a rule that is written as a list, without the closing bracket. -/
def readAsList (bound depth : Nat) : Reader Rule := fun cs => do
  let (trigger, cs) ← fieldAt 0 (Trigger.read bound depth) cs
  let trigger ← requiredAt 0 "struct Rule with 2 elements" trigger
  let (action, cs) ← fieldAt 1 (Action.read bound depth) cs
  let action ← requiredAt 1 "struct Rule with 2 elements" action
  pure (⟨trigger, action⟩, cs)

/-- Reads a rule. -/
def read (bound depth : Nat) : Reader Rule :=
  record "struct Rule" depth (readAsList bound) (readAsObject bound)

/-- The rule list of a document. -/
def readAll (text : String) : Except Fault (List Rule) :=
  readWhole (fun bound => listOf bound maxDepth (read bound)) text

end Rule

end TrackerGuard
