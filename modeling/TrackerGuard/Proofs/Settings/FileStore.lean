import Mathlib
import TrackerGuard.Settings.Store
import TrackerGuard.Storage.Folder
import TrackerGuard.Proofs.Json.Layout

/-!
# Stores on file

A store on file has its values twice, in memory and in the file, and the two agree after every
operation, whichever operations failed (`memory_agrees_with_file`): the store that the file opens to
is the one in memory.

After a success this is the round trip of the open layout.  After a failure nothing happened to the
file, and in memory the operation was undone: there the same is found under every key as before, and
dictionaries in order are equal then.  So a store needs values that are in order, nested no deeper
than the reader goes, and without doubles (`Keepable`).  What is read from a file meets the first
two of these by itself; the third is asked of the file that a store is opened from and of every
value that is set.
-/

namespace TrackerGuard.FileStore

open Json

/-! ## Values that a file keeps -/

/-- Values that are read back from what is written of them. -/
structure Keepable (values : Dictionary Json) : Prop where
  sorted : values.Sorted
  fits : ∀ e ∈ values, Fits 126 e.2
  whole : ∀ e ∈ values, IsWhole e.2

lemma Keepable.insert {values : Dictionary Json} (h : Keepable values) (key : String) {v : Json}
    (hfits : Fits 126 v) (hwhole : IsWhole v) : Keepable (values.insert key v) where
  sorted := h.sorted.insert key v
  fits e he := by
    rcases Dictionary.mem_insert he with rfl | he
    · exact hfits
    · exact h.fits e he
  whole e he := by
    rcases Dictionary.mem_insert he with rfl | he
    · exact hwhole
    · exact h.whole e he

lemma Keepable.erase {values : Dictionary Json} (h : Keepable values) (key : String) :
    Keepable (values.erase key) where
  sorted := h.sorted.erase key
  fits e he := h.fits e (Dictionary.mem_erase he)
  whole e he := h.whole e (Dictionary.mem_erase he)

/-- Values are read back from the document that is written of them. -/
lemma readValues_document {values : Dictionary Json} (h : Keepable values) :
    readValues (document values) = .ok values := by
  have hblank : (document values).toList.all Text.isBlank = false := by
    rw [document, pretty, String.toList_ofList, layOut, enclose]
    split <;> rfl
  have hfits : Fits maxDepth (.object values) := .object h.sorted h.fits
  rw [readValues, if_neg (by simp [hblank])]
  exact readWhole_pretty hfits h.whole

/-- What a file is opened to is in order and not nested too deep. -/
lemma sorted_and_fits_of_readValues {text : String} {values : Dictionary Json}
    (h : readValues text = .ok values) : values.Sorted ∧ ∀ e ∈ values, Fits 126 e.2 := by
  unfold readValues at h
  split_ifs at h
  · obtain rfl := Except.ok.inj h
    exact ⟨List.Pairwise.nil, by simp⟩
  · obtain ⟨bound, rest, hread⟩ := exists_of_readWhole h
    exact sorted_and_fits_of_dictionary hread

section Values

variable {φ : Type} [TextFile φ] {file file' : φ} {s s' : FileStore φ}

lemma ofFile?_eq_ok_iff : ofFile? file = .ok s ↔ valuesOf file = .ok s.values ∧ s.file = file := by
  unfold ofFile?
  cases hvalues : valuesOf file with
  | error e => simp [Except.map]
  | ok values =>
      obtain ⟨values', file'⟩ := s
      simp only [Except.map, Except.ok.injEq, mk.injEq]
      exact and_congr_right fun _ => eq_comm

/-- The values of a file depend on nothing but its text. -/
lemma valuesOf_congr (h : TextFile.read file' = TextFile.read file) :
    valuesOf file' = valuesOf file := by
  rw [valuesOf, valuesOf, h]

lemma valuesOf_document {values : Dictionary Json} (h : Keepable values)
    (hread : TextFile.read file = .ok (document values)) : valuesOf file = .ok values := by
  rw [valuesOf, hread]
  simp only [readValues_document h, Except.mapError]

lemma keepable_of_ofFile? (h : ofFile? file = .ok s) (hwhole : ∀ e ∈ s.values, IsWhole e.2) :
    Keepable s.values := by
  obtain ⟨hvalues, -⟩ := ofFile?_eq_ok_iff.mp h
  have hread : s.values.Sorted ∧ ∀ e ∈ s.values, Fits 126 e.2 := by
    unfold valuesOf at hvalues
    split at hvalues
    · next text htext =>
        cases hread : readValues text with
        | error fault =>
            rw [hread] at hvalues
            cases hvalues
        | ok values =>
            rw [hread] at hvalues
            rw [← Except.ok.inj hvalues]
            exact sorted_and_fits_of_readValues hread
    · rw [← Except.ok.inj hvalues]
      exact ⟨List.Pairwise.nil, by simp⟩
    · cases hvalues
  exact ⟨hread.1, hread.2, hwhole⟩

end Values

/-! ## One operation -/

/-- What a program does to a store. -/
inductive Operation where
  /-- A value is put under a key. -/
  | set (key : String) (value : Json)
  /-- A key is removed. -/
  | remove (key : String)

namespace Operation

/-- The key that an operation is about. -/
def key : Operation → String
  | set key _ | remove key => key

/-- What an operation that succeeds leaves under its key. -/
def value? : Operation → Option Json
  | set _ value => some value
  | remove _ => none

/-- Values are set only that a file gives back. -/
def IsKeepable : Operation → Prop
  | set _ value => Fits 126 value ∧ IsWhole value
  | remove _ => True

end Operation

variable {φ : Type} [TextFile φ] {s s' : FileStore φ} {op : Operation} {e : StoreError}

/-- What an operation comes to: whether it succeeded, and the store after it. -/
def perform (s : FileStore φ) : Operation → Except StoreError Unit × FileStore φ
  | .set key value => s.set key value
  | .remove key => s.remove key

/-- What an operation that succeeds leaves under a key, in memory. -/
lemma find?_of_perform (h : s.perform op = (.ok (), s')) (key : String) :
    s'.values.find? key = if op.key = key then op.value? else s.values.find? key := by
  cases op with
  | set k v => exact LawfulStore.get?_set (σ := FileStore φ) h key
  | remove k => exact LawfulStore.get?_remove (σ := FileStore φ) h key

lemma find?_of_perform_error (h : s.perform op = (.error e, s')) (key : String) :
    s'.values.find? key = s.values.find? key := by
  cases op with
  | set k v => exact LawfulStore.get?_set_error (σ := FileStore φ) h key
  | remove k => exact LawfulStore.get?_remove_error (σ := FileStore φ) h key

/-- An operation that fails is undone in memory. -/
lemma values_of_perform_error (hs : s.values.Sorted) (h : s.perform op = (.error e, s')) :
    s'.values = s.values := by
  have hsorted : s'.values.Sorted := by
    cases op with
    | set k v =>
        rw [values_of_set_error h]
        exact (hs.insert k v).restore k _
    | remove k =>
        rw [values_of_remove_error h]
        exact (hs.erase k).restore k _
  exact hsorted.ext hs (find?_of_perform_error h)

/-- An operation leaves values that a file keeps. -/
lemma keepable_perform (h : Keepable s.values) (hop : op.IsKeepable) :
    Keepable (s.perform op).2.values := by
  rcases hperform : s.perform op with ⟨e | ⟨⟨⟩⟩, s'⟩
  · rw [values_of_perform_error h.sorted hperform]
    exact h
  · cases op with
    | set k v =>
        rw [values_of_set hperform]
        exact h.insert k hop.1 hop.2
    | remove k =>
        rcases values_of_remove hperform with ⟨-, rfl⟩ | hvalues
        · exact h
        · rw [hvalues]
          exact h.erase k

/-- Removing a key that is not there does nothing. -/
lemma remove_of_find?_eq_none {key : String} (h : s.values.find? key = none) :
    s.remove key = (.ok (), s) := by
  rw [remove, h]

section File

variable [LawfulTextFile φ]

lemma read_of_persist (h : s.persist = (.ok (), s')) :
    TextFile.read s'.file = .ok (document s.values) := by
  unfold persist at h
  split at h
  next file hwrite =>
    cases h
    exact LawfulTextFile.read_of_ok hwrite
  next => cases h

lemma read_of_persist_error (h : s.persist = (.error e, s')) :
    TextFile.read s'.file = TextFile.read s.file := by
  unfold persist at h
  split at h
  next => cases h
  next hwrite =>
    cases h
    exact LawfulTextFile.read_of_error hwrite

/-- An operation that fails leaves the file as it was. -/
lemma read_of_perform_error (h : s.perform op = (.error e, s')) :
    TextFile.read s'.file = TextFile.read s.file := by
  cases op with
  | set k v =>
      simp only [perform, set] at h
      split at h
      next => cases h
      next hpersist =>
        have hfile := read_of_persist_error hpersist
        cases h
        exact hfile
  | remove k =>
      simp only [perform, remove] at h
      split at h
      next => cases h
      next =>
        split at h
        next => cases h
        next hpersist =>
          have hfile := read_of_persist_error hpersist
          cases h
          exact hfile

/-- An operation that succeeds does nothing, or writes what is in memory then. -/
lemma read_of_perform (h : s.perform op = (.ok (), s')) :
    s' = s ∨ TextFile.read s'.file = .ok (document s'.values) := by
  cases op with
  | set k v =>
      right
      have hvalues := values_of_set h
      simp only [perform, set] at h
      split at h
      next hpersist =>
        cases h
        rw [hvalues]
        exact read_of_persist hpersist
      next => cases h
  | remove k =>
      simp only [perform, remove] at h
      split at h
      next =>
        cases h
        exact .inl rfl
      next =>
        right
        split at h
        next hpersist =>
          cases h
          rw [values_of_persist hpersist]
          exact read_of_persist hpersist
        next => cases h

/-! ## Memory and file -/

/-- The file holds the values that are in memory, and these are such that a file keeps them. -/
structure Agrees (s : FileStore φ) : Prop where
  keepable : Keepable s.values
  valuesOf : valuesOf s.file = .ok s.values

/-- After an operation memory and file agree again. -/
lemma Agrees.perform (h : s.Agrees) (hop : op.IsKeepable) : (s.perform op).2.Agrees := by
  have hkeepable := keepable_perform h.keepable hop
  refine ⟨hkeepable, ?_⟩
  rcases hperform : s.perform op with ⟨e | ⟨⟨⟩⟩, s'⟩
  · rw [values_of_perform_error h.keepable.sorted hperform,
      valuesOf_congr (read_of_perform_error hperform), h.valuesOf]
  · rw [hperform] at hkeepable
    rcases read_of_perform hperform with rfl | hread
    · exact h.valuesOf
    · exact valuesOf_document hkeepable hread

end File

/-! ## Many operations -/

/-- The store after operations, one after another, whether they succeeded or not. -/
def run (s : FileStore φ) (ops : List Operation) : FileStore φ :=
  ops.foldl (fun s op => (s.perform op).2) s

/-- The operations with what each of them came to. -/
def outcomes (s : FileStore φ) : List Operation → List (Operation × Except StoreError Unit)
  | [] => []
  | op :: ops => (op, (s.perform op).1) :: outcomes (s.perform op).2 ops

/-- What the last operation on a key that succeeded left there, a value or nothing, if there was
one. -/
def lastLeft? (key : String) (outcomes : List (Operation × Except StoreError Unit)) :
    Option (Option Json) :=
  (outcomes.filter fun o => o.1.key = key ∧ o.2.isOk).getLast?.map fun o => o.1.value?

/-- Under a key there is what the last operation left that succeeded on it. -/
lemma find?_run (s : FileStore φ) (ops : List Operation) (key : String) :
    (s.run ops).values.find? key = (lastLeft? key (s.outcomes ops)).getD (s.values.find? key) := by
  induction ops generalizing s with
  | nil => rfl
  | cons op ops ih =>
      rw [run, List.foldl_cons, ← run, ih, outcomes]
      rcases hperform : s.perform op with ⟨e | ⟨⟨⟩⟩, s'⟩
      · rw [find?_of_perform_error hperform, lastLeft?, lastLeft?, List.filter_cons_of_neg]
        simp [Except.isOk, Except.toBool]
      · rw [find?_of_perform hperform]
        by_cases hkey : op.key = key
        · rw [if_pos hkey, lastLeft?, lastLeft?, List.filter_cons_of_pos, List.getLast?_cons]
          · cases (List.filter _ _).getLast? <;> rfl
          · simp [hkey, Except.isOk, Except.toBool]
        · rw [if_neg hkey, lastLeft?, lastLeft?, List.filter_cons_of_neg]
          simp [hkey]

lemma Agrees.run [LawfulTextFile φ] {ops : List Operation} (h : s.Agrees)
    (hops : ∀ op ∈ ops, op.IsKeepable) : (s.run ops).Agrees := by
  induction ops generalizing s with
  | nil => exact h
  | cons op ops ih =>
      exact ih (h.perform (hops op List.mem_cons_self))
        fun next hnext => hops next (List.mem_cons_of_mem op hnext)

/-- Memory and file agree after every operation: opening the file again gives the store that is in
memory.  An operation that fails leaves both as they were, and so does the removal of a key that is
not there; under each key there is what the last operation on it left that succeeded, or what was
loaded. -/
theorem memory_agrees_with_file [LawfulTextFile φ] {file : φ} {ops : List Operation}
    (hopen : ofFile? file = .ok s) (hloaded : ∀ e ∈ s.values, IsWhole e.2)
    (hops : ∀ op ∈ ops, op.IsKeepable) :
    ofFile? (s.run ops).file = .ok (s.run ops) ∧
      (∀ op e s', (s.run ops).perform op = (.error e, s') →
        s'.values = (s.run ops).values ∧
          TextFile.read s'.file = TextFile.read (s.run ops).file) ∧
      (∀ key, SettingsStore.get? (s.run ops) key = none →
        SettingsStore.remove (s.run ops) key = (.ok (), s.run ops)) ∧
      ∀ key, SettingsStore.get? (s.run ops) key =
        (lastLeft? key (s.outcomes ops)).getD (SettingsStore.get? s key) := by
  obtain ⟨hvalues, rfl⟩ := ofFile?_eq_ok_iff.mp hopen
  have hagrees : s.Agrees := ⟨keepable_of_ofFile? hopen hloaded, hvalues⟩
  have hrun := hagrees.run hops
  refine ⟨ofFile?_eq_ok_iff.mpr ⟨hrun.valuesOf, rfl⟩, ?_, ?_, s.find?_run ops⟩
  · intro op e s' h
    exact ⟨values_of_perform_error hrun.keepable.sorted h, read_of_perform_error h⟩
  · intro key h
    exact remove_of_find?_eq_none h

/-- A shelf on a disk that is full at times: `full` foretells it for the texts to come. -/
structure CrowdedShelf where
  shelf : Shelf
  full : List Bool

namespace CrowdedShelf

/-- Writes at the end of the temporary file if there is room. -/
def append (s : CrowdedShelf) (text : String) : Except IoError Unit × CrowdedShelf :=
  match s.full with
  | true :: full => (.error .refused, { s with full := full })
  | full => ((s.shelf.append text).1, ⟨(s.shelf.append text).2, full.tail⟩)

instance : Folder CrowdedShelf where
  read s := Folder.read s.shelf
  beside s := Folder.beside s.shelf
  prepare s := (.ok (), s)
  create s := (s.shelf.create.1, { s with shelf := s.shelf.create.2 })
  append := append
  sync s := (.ok (), s)
  rename s := (s.shelf.rename.1, { s with shelf := s.shelf.rename.2 })
  discard s := (s.shelf.discard.1, { s with shelf := s.shelf.discard.2 })

instance : LawfulFolder CrowdedShelf where
  read_prepare _ := rfl
  read_create s := LawfulFolder.read_create s.shelf
  read_append s text := by
    simp only [Folder.append, append]
    split
    · rfl
    · exact LawfulFolder.read_append s.shelf text
  read_sync _ := rfl
  read_discard s := LawfulFolder.read_discard s.shelf
  beside_create {s s'} h := by
    obtain ⟨hresult, rfl⟩ := Prod.mk.inj h
    have hcreate : Folder.create s.shelf = (.ok (), s.shelf.create.2) := Prod.ext hresult rfl
    have hshelf := LawfulFolder.beside_create hcreate
    exact hshelf
  beside_append {s s' before text} h hbefore := by
    simp only [Folder.append, append] at h
    split at h
    · cases h
    · obtain ⟨hresult, rfl⟩ := Prod.mk.inj h
      have happend : Folder.append s.shelf text = (.ok (), (s.shelf.append text).2) :=
        Prod.ext hresult rfl
      have hshelf := LawfulFolder.beside_append (d := s.shelf) happend hbefore
      exact hshelf
  beside_sync h := by
    cases h
    rfl
  read_rename {s s'} h := by
    obtain ⟨hresult, rfl⟩ := Prod.mk.inj h
    have hrename : Folder.rename s.shelf = (.ok (), s.shelf.rename.2) := Prod.ext hresult rfl
    have hshelf := LawfulFolder.read_rename hrename
    exact hshelf
  read_rename_error {s s' e} h := by
    obtain ⟨hresult, rfl⟩ := Prod.mk.inj h
    have hrename : Folder.rename s.shelf = (.error e, s.shelf.rename.2) := Prod.ext hresult rfl
    have hshelf := LawfulFolder.read_rename_error hrename
    exact hshelf

end CrowdedShelf

/-- A file with one value, on a disk that is full at the second of the texts to come. -/
def crowdedFile : CrowdedShelf := ⟨{ content := .text "\x7b\"a\": [true]\x7d" }, [false, true]⟩

/-- The store that the file opens to. -/
def crowdedStore : FileStore CrowdedShelf := ⟨[("a", .list [.bool true])], crowdedFile⟩

/-- A value is set, its removal fails, another value is replaced, and a key is removed that is not
there. -/
def crowdedOperations : List Operation :=
  [.set "b" (.int 1), .remove "b", .set "a" (.text "x"), .remove "c"]

/-- The removal that failed left its value there, in memory and in the file. -/
theorem memory_agrees_with_file_when_crowded :
    ofFile? crowdedFile = .ok crowdedStore ∧
      (crowdedStore.outcomes crowdedOperations).map (·.2.isOk) = [true, false, true, true] ∧
      ofFile? (crowdedStore.run crowdedOperations).file =
        .ok (crowdedStore.run crowdedOperations) ∧
      SettingsStore.get? (crowdedStore.run crowdedOperations) "b" = some (.int 1) ∧
      SettingsStore.get? (crowdedStore.run crowdedOperations) "a" = some (.text "x") := by
  have hread : readWhole (dictionary · maxDepth) "\x7b\"a\": [true]\x7d" =
      .ok [("a", .list [.bool true])] := by
    cbv
  have hopen : ofFile? crowdedFile = .ok crowdedStore := by
    refine ofFile?_eq_ok_iff.mpr ⟨?_, rfl⟩
    have htext : TextFile.read crowdedFile = .ok "\x7b\"a\": [true]\x7d" := rfl
    rw [valuesOf, htext]
    simp only [readValues, hread]
    rfl
  have hloaded : ∀ e ∈ crowdedStore.values, IsWhole e.2 := by
    intro e he
    obtain rfl := List.mem_singleton.mp he
    refine .list fun v hv => ?_
    obtain rfl := List.mem_singleton.mp hv
    exact .bool
  have hops : ∀ op ∈ crowdedOperations, op.IsKeepable := by
    have hone : InRange 1 := ⟨by decide, by decide⟩
    intro op hop
    simp only [crowdedOperations, List.mem_cons, List.not_mem_nil, or_false] at hop
    rcases hop with rfl | rfl | rfl | rfl
    · exact ⟨.number, .int hone⟩
    · trivial
    · exact ⟨.text, .text⟩
    · trivial
  obtain ⟨hagree, -, -, hget⟩ := memory_agrees_with_file hopen hloaded hops
  refine ⟨hopen, rfl, hagree, ?_, ?_⟩
  · rw [hget]
    rfl
  · rw [hget]
    rfl

end TrackerGuard.FileStore
