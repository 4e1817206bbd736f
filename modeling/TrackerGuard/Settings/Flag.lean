import TrackerGuard.Settings.Store
import TrackerGuard.Rule.Basic

/-!
# Flags

Three features can be turned on and off.  A flag is kept in the settings under its key; a flag that
is not there, or whose value is not a truth value, has its default.
-/

namespace TrackerGuard

/-- A feature that can be turned on and off. -/
inductive Flag where
  /-- Third-party requests to trackers are blocked. -/
  | blockRequests
  /-- Third-party requests to trackers are sent without cookies. -/
  | blockCookies
  /-- Requests are upgraded to https. -/
  | upgradeToHttps
  deriving DecidableEq, Repr

namespace Flag

/-- All flags. -/
def all : List Flag := [.blockRequests, .blockCookies, .upgradeToHttps]

/-- The key in the settings. -/
def key : Flag → String
  | .blockRequests => "blockThirdPartyTrackingRequests"
  | .blockCookies => "blockThirdPartyTrackingCookies"
  | .upgradeToHttps => "upgradeAllToHttps"

/-- The name on the command line. -/
def name : Flag → String
  | .blockRequests => "block-requests"
  | .blockCookies => "block-cookies"
  | .upgradeToHttps => "upgrade-https"

/-- The value of a flag that is not set. -/
def default : Flag → Bool
  | .blockRequests | .blockCookies => true
  | .upgradeToHttps => false

/-- The flag of a name or of a key. -/
def ofName? (name : String) : Option Flag :=
  all.find? fun f => f.name == name || f.key == name

variable {σ : Type} [SettingsStore σ]

/-- Whether the settings have a value for the flag, of whatever kind. -/
def isStored (f : Flag) (store : σ) : Bool := (SettingsStore.get? store f.key).isSome

/-- Whether the feature is on. -/
def isOn (f : Flag) (store : σ) : Bool :=
  match SettingsStore.get? store f.key with
  | some (.bool b) => b
  | _ => f.default

/-- Turns the feature on or off. -/
def set (f : Flag) (enabled : Bool) (store : σ) : Except StoreError Unit × σ :=
  SettingsStore.set store f.key (.bool enabled)

/-- Turns the feature on if it is off and off if it is on; the result is its new value. -/
def toggle (f : Flag) (store : σ) : Except StoreError Bool × σ :=
  let enabled := !f.isOn store
  match f.set enabled store with
  | (.ok (), store) => (.ok enabled, store)
  | (.error e, store) => (.error e, store)

/-- Removes the flag from the settings, so that it has its default again. -/
def reset (f : Flag) (store : σ) : Except StoreError Unit × σ :=
  SettingsStore.remove store f.key

end Flag

end TrackerGuard
