/-!
# Content-blocker rules

A rule list is what a platform's content filter loads: each rule has a trigger, which says for which
loads it applies, and an action.  The filter goes through the list in order; an action that ignores
previous rules cancels whatever the rules before it decided for the load.  So exemptions have to
follow the rules that they exempt from, which `wellOrdered` checks.
-/

namespace TrackerGuard

/-- What a rule does to a load. -/
inductive Action where
  /-- Cancels the request. -/
  | block
  /-- Strips cookies from the request. -/
  | blockCookies
  /-- Turns http into https and ws into wss. -/
  | makeHttps
  /-- Cancels the effect of every rule listed before. -/
  | ignorePreviousRules
  /-- Hides the elements that the selector picks. -/
  | cssDisplayNone (selector : String)
  deriving DecidableEq, Repr, Inhabited

/-- The kinds of action, as they are named in a rule document. -/
inductive Action.Kind where
  | block
  | blockCookies
  | makeHttps
  | ignorePreviousRules
  | cssDisplayNone
  deriving DecidableEq, Repr

namespace Action

/-- The kind of an action. -/
def kind : Action → Kind
  | .block => .block
  | .blockCookies => .blockCookies
  | .makeHttps => .makeHttps
  | .ignorePreviousRules => .ignorePreviousRules
  | .cssDisplayNone _ => .cssDisplayNone

/-- The name of a kind in a rule document. -/
def Kind.name : Kind → String
  | .block => "block"
  | .blockCookies => "block-cookies"
  | .makeHttps => "make-https"
  | .ignorePreviousRules => "ignore-previous-rules"
  | .cssDisplayNone => "css-display-none"

/-- The kinds in the order in which messages list them. -/
def Kind.all : List Kind :=
  [.block, .blockCookies, .makeHttps, .ignorePreviousRules, .cssDisplayNone]

/-- The name of the kind of an action. -/
def kindName (a : Action) : String := a.kind.name

/-- Whether the action blocks tracking: the request or its cookies. -/
def isBlocking : Action → Bool
  | .block | .blockCookies => true
  | _ => false

end Action

/-- What a load fetches. -/
inductive ResourceType where
  | document
  | image
  | styleSheet
  | script
  | font
  | raw
  | svgDocument
  | media
  | popup
  deriving DecidableEq, Repr

namespace ResourceType

/-- The name in a rule document. -/
def name : ResourceType → String
  | .document => "document"
  | .image => "image"
  | .styleSheet => "style-sheet"
  | .script => "script"
  | .font => "font"
  | .raw => "raw"
  | .svgDocument => "svg-document"
  | .media => "media"
  | .popup => "popup"

/-- All resource types, in the order in which messages list them. -/
def all : List ResourceType :=
  [.document, .image, .styleSheet, .script, .font, .raw, .svgDocument, .media, .popup]

end ResourceType

/-- Whether a request goes to the site of the page. -/
inductive LoadType where
  | firstParty
  | thirdParty
  deriving DecidableEq, Repr

namespace LoadType

/-- The name in a rule document. -/
def name : LoadType → String
  | .firstParty => "first-party"
  | .thirdParty => "third-party"

/-- Both load types, in the order in which messages list them. -/
def all : List LoadType := [.firstParty, .thirdParty]

end LoadType

/-- The condition under which a rule applies.  A list that is absent restricts nothing. -/
structure Trigger where
  urlFilter : String
  caseSensitive : Bool := false
  ifDomain : Option (List String) := none
  unlessDomain : Option (List String) := none
  resourceType : Option (List ResourceType) := none
  loadType : Option (List LoadType) := none
  ifTopUrl : Option (List String) := none
  unlessTopUrl : Option (List String) := none
  deriving DecidableEq, Repr, Inhabited

/-- A rule of the content filter. -/
structure Rule where
  trigger : Trigger
  action : Action
  deriving DecidableEq, Repr, Inhabited

namespace Rule

/-- How many rules of each kind a list has. -/
def count (kind : Action.Kind) (rules : List Rule) : Nat :=
  rules.countP (·.action.kind == kind)

/-- The index of the last rule that blocks. -/
def lastBlocking? (rules : List Rule) : Option Nat :=
  (rules.reverse.findIdx? (·.action.isBlocking)).map (rules.length - 1 - ·)

/-- The index of the first rule that ignores the rules before it. -/
def firstOverride? (rules : List Rule) : Option Nat :=
  rules.findIdx? (·.action == .ignorePreviousRules)

/-- Whether every override stands after every blocking rule. -/
def wellOrdered (rules : List Rule) : Bool :=
  match lastBlocking? rules, firstOverride? rules with
  | some blocking, some override => blocking < override
  | _, _ => true

/-! ## What a list does to a load -/

/-- The rules in effect for a load after the rules of a list have been gone through, given which
triggers match it: each matching rule joins, and a matching override cancels those before it. -/
def inEffect (applies : Trigger → Bool) (rules : List Rule) : List Rule :=
  rules.foldl (fun effect r =>
    if !applies r.trigger then effect
    else if r.action = .ignorePreviousRules then []
    else effect ++ [r]) []

end Rule

end TrackerGuard
