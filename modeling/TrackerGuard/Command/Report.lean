import TrackerGuard.Artifact.Writer
import TrackerGuard.Page.Summary
import TrackerGuard.Settings.Flag

/-!
# What commands print

The lines that the commands print about artifacts, requests, sites and flags.  Sizes are given in
bytes and, to one decimal, in units of 1024 bytes, where a half goes to the even digit.  Columns are
filled up with spaces.
-/

namespace TrackerGuard.Command

/-- The quotient to the nearest whole number; of two that are equally near, the even one. -/
def roundDiv (n d : Nat) : Nat :=
  let q := n / d
  let twice := 2 * (n % d)
  if twice < d then q
  else if d < twice then q + 1
  else if q % 2 = 0 then q else q + 1

/-- A size in units of 1024 bytes, to one decimal. -/
def kilobytes (bytes : Nat) : String :=
  let tenths := roundDiv (10 * bytes) 1024
  toString (tenths / 10) ++ "." ++ toString (tenths % 10) ++ " KB"

/-- A size. -/
def sizeText (bytes : Nat) : String :=
  toString bytes ++ " bytes (" ++ kilobytes bytes ++ ")"

/-- A truth value. -/
def truthText (b : Bool) : String := if b then "true" else "false"

/-- A text filled up with spaces to a width. -/
def column (width : Nat) (text : String) : String :=
  text ++ String.ofList (List.replicate (width - text.length) ' ')

/-- What is printed about an artifact that was written. -/
def compileLines (list output : String) (features : Features) (r : WriteReport) : List String :=
  let t := r.tally
  ["Compiled '" ++ list ++ "' to '" ++ output ++ "'",
   "  Flags:     requests=" ++ truthText features.blockRequests ++
     " cookies=" ++ truthText features.blockCookies ++
     " https=" ++ truthText features.upgradeToHttps,
   "  Domains:   " ++ toString t.domains ++ " (" ++ toString t.skippedDomains ++ " skipped)",
   "  Rules:     " ++ toString t.totalRules ++ " (blocking " ++ toString t.blockingRules ++
     ", safelist " ++ toString t.safelistRules ++ ", https " ++ toString t.upgradeRules ++ ")"] ++
  (if t.truncatedGroups = 0 then []
   else ["  Truncated: " ++ toString t.truncatedGroups ++
     " blocking groups over the rule ceiling"]) ++
  ["  Size:      " ++ sizeText r.bytes]

/-- What is printed about an artifact of some size that has been read. -/
def infoLines (input : String) (bytes : Nat) (rules : List Rule) : List String :=
  let count (kind : Action.Kind) : String := toString (Rule.count kind rules)
  ["Artifact: " ++ input,
   "  Size:            " ++ sizeText bytes,
   "  Rules:           " ++ toString rules.length ++ " (ceiling " ++ toString ruleCeiling ++ ")",
   "",
   "Actions:",
   "  block:                 " ++ count .block,
   "  block-cookies:         " ++ count .blockCookies,
   "  make-https:            " ++ count .makeHttps,
   "  ignore-previous-rules: " ++ count .ignorePreviousRules,
   "  css-display-none:      " ++ count .cssDisplayNone] ++
  (if Rule.wellOrdered rules then []
   else ["", "Warning: some ignore-previous-rules entries precede blocking rules"]) ++
  (if rules.length ≤ ruleCeiling then []
   else ["", "Warning: rule count exceeds the content filter ceiling"])

/-- What is printed about requests of a page, each with whether it is blocked. -/
def checkLines (page : String) (verdicts : List (String × Bool)) (s : PageSummary) :
    List String :=
  ("Page: " ++ page) ::
  verdicts.map (fun (request, blocked) =>
    "  " ++ column 8 (if blocked then "BLOCKED" else "allowed") ++ " " ++ request) ++
  ["",
   "Trackers:    " ++ toString s.requestCount ++ " requests, " ++ toString s.hostCount ++
     " hosts"] ++
  s.ranking.map fun (e, n) => "  " ++ column 14 e.name ++ " " ++ toString n

/-- The summary of a page as a JSON value, with its members in the order of reading. -/
def summaryDocument (s : PageSummary) : Json :=
  .object [("num_trackers", .nat s.requestCount), ("num_domains", .nat s.hostCount),
    ("entities", .texts (s.entities.map Entity.name))]

/-- What is printed after trackers have been allowed on a site, or forbidden. -/
def safelistLines (allowing changed : Bool) (site : String) : List String :=
  let outcome := match allowing, changed with
    | true, true => "Trackers allowed on " ++ site
    | true, false => site ++ " is already safelisted"
    | false, true => "Trackers blocked on " ++ site ++ " again"
    | false, false => site ++ " is not safelisted"
  outcome :: if changed then ["Run 'tp-cli compile' to update the rule artifact"] else []

/-- What is printed about the sites on which trackers are allowed. -/
def sitesLines (sites : List String) : List String :=
  if sites.isEmpty then ["No safelisted sites"] else sites

/-- What is printed about a flag. -/
def flagLine {σ : Type} [SettingsStore σ] (store : σ) (f : Flag) : String :=
  column 34 f.key ++ " " ++ truthText (f.isOn store) ++
    if f.isStored store then "" else " (default)"

end TrackerGuard.Command
