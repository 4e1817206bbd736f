import Mathlib
import TrackerGuard.Settings.Flag

/-!
# Changes of flags

A flag is set, toggled or reset.  Each of these is one write under the key of the flag, and it is
the flag's value before that decides what is written when the flag is toggled.  If the store takes
the write, there is what the change leaves under the key and all else is as before, and otherwise
everything is (`ask_cases`).
-/

namespace TrackerGuard.Flag

lemma key_injective : Function.Injective key := by
  intro f g h
  cases f <;> cases g <;> first | rfl | exact absurd h (by decide)

/-- The value of a flag when this is stored under its key. -/
def valueOf (f : Flag) : Option Json → Bool
  | some (.bool b) => b
  | _ => f.default

/-- A change that a user asks for. -/
inductive Change where
  | set (enabled : Bool)
  | toggle
  | reset
  deriving DecidableEq, Repr

/-- The truth value that a change leaves under the key of a flag that was on or off, if any. -/
def Change.left? (on : Bool) : Change → Option Bool
  | .set enabled => some enabled
  | .toggle => some !on
  | .reset => none

/-- The truth value that a change is answered with, which only a toggled flag has. -/
def Change.answer? (on : Bool) : Change → Option Bool
  | .toggle => some !on
  | .set _ | .reset => none

variable {σ : Type} [SettingsStore σ]

lemma isOn_eq_valueOf (f : Flag) (store : σ) :
    f.isOn store = f.valueOf (SettingsStore.get? store f.key) := rfl

/-- A flag is on or off as the truth value says that is stored, or by default. -/
lemma valueOf_map_bool (f : Flag) (value? : Option Bool) :
    f.valueOf (value?.map .bool) = value?.getD f.default := by
  cases value? <;> rfl

/-- What a change comes to: its answer and the store after it. -/
def ask (f : Flag) (store : σ) : Change → Except StoreError (Option Bool) × σ
  | .set enabled => ((f.set enabled store).1.map fun _ => none, (f.set enabled store).2)
  | .toggle => ((f.toggle store).1.map some, (f.toggle store).2)
  | .reset => ((f.reset store).1.map fun _ => none, (f.reset store).2)

/-- A change is made or not, and nothing happens under the keys of others. -/
lemma ask_cases [LawfulStore σ] (f : Flag) (store : σ) (c : Change) :
    (∃ after, f.ask store c = (.ok (c.answer? (f.isOn store)), after) ∧
      ∀ k, SettingsStore.get? after k =
        if f.key = k then (c.left? (f.isOn store)).map .bool else SettingsStore.get? store k) ∨
    ∃ e after, f.ask store c = (.error e, after) ∧
      ∀ k, SettingsStore.get? after k = SettingsStore.get? store k := by
  have hset (enabled : Bool) :
      (∃ after, f.set enabled store = (.ok (), after) ∧
        ∀ k, SettingsStore.get? after k =
          if f.key = k then some (.bool enabled) else SettingsStore.get? store k) ∨
      ∃ e after, f.set enabled store = (.error e, after) ∧
        ∀ k, SettingsStore.get? after k = SettingsStore.get? store k := by
    rcases h : f.set enabled store with ⟨e | ⟨⟨⟩⟩, after⟩
    · exact .inr ⟨e, after, rfl, LawfulStore.get?_set_error h⟩
    · exact .inl ⟨after, rfl, LawfulStore.get?_set h⟩
  cases c with
  | set enabled =>
      rcases hset enabled with ⟨after, h, hget⟩ | ⟨e, after, h, hget⟩
      · exact .inl ⟨after, by rw [ask, h]; rfl, hget⟩
      · exact .inr ⟨e, after, by rw [ask, h]; rfl, hget⟩
  | toggle =>
      rcases hset !f.isOn store with ⟨after, h, hget⟩ | ⟨e, after, h, hget⟩
      · have htoggle : f.toggle store = (.ok !f.isOn store, after) := by simp only [toggle, h]
        exact .inl ⟨after, by rw [ask, htoggle]; rfl, hget⟩
      · have htoggle : f.toggle store = (.error e, after) := by simp only [toggle, h]
        exact .inr ⟨e, after, by rw [ask, htoggle]; rfl, hget⟩
  | reset =>
      rcases h : f.reset store with ⟨e | ⟨⟨⟩⟩, after⟩
      · exact .inr ⟨e, after, by rw [ask, h]; rfl, LawfulStore.get?_remove_error h⟩
      · exact .inl ⟨after, by rw [ask, h]; rfl, LawfulStore.get?_remove h⟩

end TrackerGuard.Flag
