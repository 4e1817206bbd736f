import TrackerGuard.Settings.Flag

/-!
# Features

The values of all flags at one moment, which is what a rule list is compiled for.  At most one way
of blocking is active: when both requests and cookies are to be blocked, requests are.
-/

namespace TrackerGuard

open Json

/-- Which features are on. -/
structure Features where
  blockRequests : Bool := true
  blockCookies : Bool := true
  upgradeToHttps : Bool := false
  deriving DecidableEq, Repr, Inhabited

namespace Features

/-- The current values of the flags. -/
def ofStore {σ : Type} [SettingsStore σ] (store : σ) : Features where
  blockRequests := Flag.blockRequests.isOn store
  blockCookies := Flag.blockCookies.isOn store
  upgradeToHttps := Flag.upgradeToHttps.isOn store

/-- What is done to requests that go to trackers. -/
def blockingAction? (f : Features) : Option Action :=
  if f.blockRequests then some .block
  else if f.blockCookies then some .blockCookies
  else none

/-! ## The document of features -/

/-- The features as a JSON text. -/
def write (f : Features) : String :=
  String.ofList (brace [
    writeMember "block_third_party_requests" (writeBool f.blockRequests),
    writeMember "block_third_party_cookies" (writeBool f.blockCookies),
    writeMember "upgrade_to_https" (writeBool f.upgradeToHttps)])

/-- The features that have been read so far. -/
structure Fields where
  blockRequests : Option Bool := none
  blockCookies : Option Bool := none
  upgradeToHttps : Option Bool := none

/-- Reads a member. -/
def readMember (bound : Nat) (f : Fields) (name : String) : Reader Fields := fun cs =>
  match name with
  | "block_third_party_requests" => do
    let (x, cs) ← field name f.blockRequests boolean cs
    pure ({ f with blockRequests := x }, cs)
  | "block_third_party_cookies" => do
    let (x, cs) ← field name f.blockCookies boolean cs
    pure ({ f with blockCookies := x }, cs)
  | "upgrade_to_https" => do
    let (x, cs) ← field name f.upgradeToHttps boolean cs
    pure ({ f with upgradeToHttps := x }, cs)
  | _ => stranger bound f cs

/-- Reads features that are written as an object. -/
def readAsObject (bound : Nat) : Reader Features := fun cs => do
  let (f, rest) ← readMembers bound (readMember bound) {} cs
  let blockRequests ← required "block_third_party_requests" f.blockRequests
  let blockCookies ← required "block_third_party_cookies" f.blockCookies
  let upgradeToHttps ← required "upgrade_to_https" f.upgradeToHttps
  pure (⟨blockRequests, blockCookies, upgradeToHttps⟩, rest)

/-- Reads features that are written as a list, without the closing bracket. -/
def readAsList : Reader Features := fun cs => do
  let wanted := "struct FeatureConfig with 3 elements"
  let (blockRequests, cs) ← fieldAt 0 boolean cs
  let blockRequests ← requiredAt 0 wanted blockRequests
  let (blockCookies, cs) ← fieldAt 1 boolean cs
  let blockCookies ← requiredAt 1 wanted blockCookies
  let (upgradeToHttps, cs) ← fieldAt 2 boolean cs
  let upgradeToHttps ← requiredAt 2 wanted upgradeToHttps
  pure (⟨blockRequests, blockCookies, upgradeToHttps⟩, cs)

/-- The features of a document. -/
def read (text : String) : Except Fault Features :=
  readWhole
    (fun bound => record "struct FeatureConfig" maxDepth (fun _ => readAsList)
      (fun _ => readAsObject bound))
    text

end Features

end TrackerGuard
