import TrackerGuard.Json.Shape
import TrackerGuard.Storage.File

/-!
# Settings stores

Settings are JSON values under keys.  A store looks a key up, sets it and removes it; the latter two
may fail, and then the store must be as it was before, which is what `LawfulStore` says.

There are three stores.  A `TransientStore` forgets everything with the program.  A `FrailStore` is
one that can be told to refuse writes.  A `FileStore` keeps its values in a file as well: it is
opened from the file, and a change that the file does not take is undone.
-/

namespace TrackerGuard

/-- Why a store could not be opened or changed. -/
inductive StoreError where
  | io (cause : IoError)
  | malformed (cause : Json.Fault)
  deriving DecidableEq, Repr

/-- Values under keys. -/
class SettingsStore (σ : Type) where
  /-- The value under a key. -/
  get? : σ → String → Option Json
  /-- Puts a value under a key. -/
  set : σ → String → Json → Except StoreError Unit × σ
  /-- Removes a key, which need not be there. -/
  remove : σ → String → Except StoreError Unit × σ

/-- A store whose changes do what they say, or nothing when they fail. -/
class LawfulStore (σ : Type) [SettingsStore σ] : Prop where
  get?_set {s s' : σ} {k : String} {v : Json} :
    SettingsStore.set s k v = (.ok (), s') →
      ∀ key, SettingsStore.get? s' key = if k = key then some v else SettingsStore.get? s key
  get?_set_error {s s' : σ} {k : String} {v : Json} {e : StoreError} :
    SettingsStore.set s k v = (.error e, s') →
      ∀ key, SettingsStore.get? s' key = SettingsStore.get? s key
  get?_remove {s s' : σ} {k : String} :
    SettingsStore.remove s k = (.ok (), s') →
      ∀ key, SettingsStore.get? s' key = if k = key then none else SettingsStore.get? s key
  get?_remove_error {s s' : σ} {k : String} {e : StoreError} :
    SettingsStore.remove s k = (.error e, s') →
      ∀ key, SettingsStore.get? s' key = SettingsStore.get? s key

/-! ## Stores in memory -/

/-- A store that lives in memory alone. -/
structure TransientStore where
  values : Dictionary Json := []

instance : SettingsStore TransientStore where
  get? s k := s.values.find? k
  set s k v := (.ok (), ⟨s.values.insert k v⟩)
  remove s k := (.ok (), ⟨s.values.erase k⟩)

/-- A store in memory that can be told to refuse writes. -/
structure FrailStore where
  values : Dictionary Json := []
  /-- Whether writes are refused from now on. -/
  refuses : Bool := false

instance : SettingsStore FrailStore where
  get? s k := s.values.find? k
  set s k v :=
    if s.refuses then (.error (.io .refused), s)
    else (.ok (), { s with values := s.values.insert k v })
  remove s k :=
    if s.refuses then (.error (.io .refused), s)
    else (.ok (), { s with values := s.values.erase k })

open Dictionary in
instance : LawfulStore TransientStore where
  get?_set h := by cases h; exact fun key => find?_insert ..
  get?_set_error h := by cases h
  get?_remove h := by cases h; exact fun key => find?_erase ..
  get?_remove_error h := by cases h

open Dictionary in
instance : LawfulStore FrailStore where
  get?_set h := by
    simp only [SettingsStore.set] at h
    split at h <;> cases h
    exact fun key => find?_insert ..
  get?_set_error h := by
    simp only [SettingsStore.set] at h
    split at h <;> cases h
    exact fun key => rfl
  get?_remove h := by
    simp only [SettingsStore.remove] at h
    split at h <;> cases h
    exact fun key => find?_erase ..
  get?_remove_error h := by
    simp only [SettingsStore.remove] at h
    split at h <;> cases h
    exact fun key => rfl

/-! ## Stores on file -/

/-- A store that is kept in a file. -/
structure FileStore (φ : Type) where
  values : Dictionary Json
  file : φ

namespace FileStore

variable {φ : Type} [TextFile φ]

/-- The values in a text: a JSON object, or nothing but blanks. -/
def readValues (text : String) : Except Json.Fault (Dictionary Json) :=
  if text.toList.all Text.isBlank then .ok []
  else Json.readWhole (Json.dictionary · Json.maxDepth) text

/-- The values of a file; a file that does not exist has none. -/
def valuesOf (file : φ) : Except StoreError (Dictionary Json) :=
  match TextFile.read file with
  | .ok text => (readValues text).mapError .malformed
  | .error .notFound => .ok []
  | .error e => .error (.io e)

/-- Opens the store of a file. -/
def ofFile? (file : φ) : Except StoreError (FileStore φ) :=
  (valuesOf file).map fun values => ⟨values, file⟩

/-- The text that the file holds for some values. -/
def document (values : Dictionary Json) : String := (Json.object values).pretty

/-- Writes the values into the file. -/
def persist (s : FileStore φ) : Except StoreError Unit × FileStore φ :=
  match TextFile.write s.file (document s.values) with
  | (.ok (), file) => (.ok (), { s with file := file })
  | (.error e, file) => (.error (.io e), { s with file := file })

/-- Puts a value under a key.  If the values cannot be written, what was there is put back. -/
def set (s : FileStore φ) (k : String) (v : Json) : Except StoreError Unit × FileStore φ :=
  let previous := s.values.find? k
  match { s with values := s.values.insert k v }.persist with
  | (.ok (), s) => (.ok (), s)
  | (.error e, s) => (.error e, { s with values := s.values.restore k previous })

/-- Removes a key, and puts it back if the other values cannot be written.  Nothing is written if it
is not there. -/
def remove (s : FileStore φ) (k : String) : Except StoreError Unit × FileStore φ :=
  match s.values.find? k with
  | none => (.ok (), s)
  | some previous =>
    match { s with values := s.values.erase k }.persist with
    | (.ok (), s) => (.ok (), s)
    | (.error e, s) => (.error e, { s with values := s.values.insert k previous })

instance : SettingsStore (FileStore φ) where
  get? s k := s.values.find? k
  set := set
  remove := remove

/-- Writing the values changes none of them. -/
theorem values_of_persist {s s' : FileStore φ} {result : Except StoreError Unit}
    (h : s.persist = (result, s')) : s'.values = s.values := by
  unfold persist at h
  split at h <;> cases h <;> rfl

/-- A value that was set is in memory. -/
theorem values_of_set {s s' : FileStore φ} {k : String} {v : Json}
    (h : s.set k v = (.ok (), s')) : s'.values = s.values.insert k v := by
  unfold set at h
  split at h
  next hpersist =>
    cases h
    exact values_of_persist hpersist
  next => cases h

/-- A value that could not be set was undone. -/
theorem values_of_set_error {s s' : FileStore φ} {k : String} {v : Json} {e : StoreError}
    (h : s.set k v = (.error e, s')) :
    s'.values = (s.values.insert k v).restore k (s.values.find? k) := by
  unfold set at h
  split at h
  next => cases h
  next hpersist =>
    cases h
    rw [values_of_persist hpersist]

/-- A key that was removed is not in memory. -/
theorem values_of_remove {s s' : FileStore φ} {k : String} (h : s.remove k = (.ok (), s')) :
    (s.values.find? k = none ∧ s' = s) ∨ s'.values = s.values.erase k := by
  unfold remove at h
  split at h
  next hnone =>
    cases h
    exact .inl ⟨hnone, rfl⟩
  next =>
    split at h
    next hpersist =>
      cases h
      exact .inr (values_of_persist hpersist)
    next => cases h

/-- A removal that failed was undone. -/
theorem values_of_remove_error {s s' : FileStore φ} {k : String} {e : StoreError}
    (h : s.remove k = (.error e, s')) :
    s'.values = (s.values.erase k).restore k (s.values.find? k) := by
  unfold remove at h
  split at h
  next => cases h
  next previous hsome =>
    split at h
    next => cases h
    next hpersist =>
      cases h
      rw [values_of_persist hpersist, hsome]
      rfl

open Dictionary in
instance : LawfulStore (FileStore φ) where
  get?_set h key := by
    simp only [SettingsStore.get?, values_of_set h]
    exact find?_insert ..
  get?_set_error {s s' k v e} h key := by
    simp only [SettingsStore.get?, values_of_set_error h, find?_restore, find?_insert]
    grind
  get?_remove {s s' k} h key := by
    rcases values_of_remove h with ⟨hnone, rfl⟩ | hvalues
    · simp only [SettingsStore.get?]
      grind
    · simp only [SettingsStore.get?, hvalues]
      exact find?_erase ..
  get?_remove_error {s s' k e} h key := by
    simp only [SettingsStore.get?, values_of_remove_error h, find?_restore, find?_erase]
    grind

end FileStore

end TrackerGuard
