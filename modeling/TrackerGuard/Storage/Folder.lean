import TrackerGuard.Storage.File

/-!
# Replacing files

A file is replaced through a temporary file beside it: the new text goes into the temporary file,
which takes the place of the old file when it is complete.  Each step may fail, and what comes
before the last step does not touch the old file; so whenever the replacement fails, the old file is
as it was.

`Folder` is what the operating system does for this with a file and the temporary file beside it,
and `LawfulFolder` what a program may rely on.  `Folder.replace` is the replacement, which makes
every lawful folder a lawful place for a text.  A `Shelf` is a folder of its own, in which something
may stand in the place of the file or of the temporary file.
-/

namespace TrackerGuard

/-- A file and the temporary file beside it. -/
class Folder (δ : Type) where
  /-- The text of the file. -/
  read : δ → Except IoError String
  /-- The text of the temporary file. -/
  beside : δ → Except IoError String
  /-- Makes the directory of both, and those above it. -/
  prepare : δ → Except IoError Unit × δ
  /-- Makes the temporary file without a text. -/
  create : δ → Except IoError Unit × δ
  /-- Writes a text at the end of the temporary file. -/
  append : δ → String → Except IoError Unit × δ
  /-- Waits until the temporary file is stored. -/
  sync : δ → Except IoError Unit × δ
  /-- Lets the temporary file take the place of the file. -/
  rename : δ → Except IoError Unit × δ
  /-- Deletes the temporary file. -/
  discard : δ → Except IoError Unit × δ

namespace Folder

variable {δ : Type}

/-- Goes on after a step, unless it failed. -/
def andThen (first : Except IoError Unit × δ) (next : δ → Except IoError Unit × δ) :
    Except IoError Unit × δ :=
  match first with
  | (.ok (), d) => next d
  | (.error e, d) => (.error e, d)

theorem andThen_eq_ok {first : Except IoError Unit × δ} {next : δ → Except IoError Unit × δ}
    {d' : δ} (h : andThen first next = (.ok (), d')) :
    ∃ d, first = (.ok (), d) ∧ next d = (.ok (), d') := by
  match first with
  | (.ok (), d) => exact ⟨d, rfl, h⟩
  | (.error _, _) => cases h

theorem andThen_eq_error {first : Except IoError Unit × δ} {next : δ → Except IoError Unit × δ}
    {e : IoError} {d' : δ} (h : andThen first next = (.error e, d')) :
    first = (.error e, d') ∨ ∃ d, first = (.ok (), d) ∧ next d = (.error e, d') := by
  match first with
  | (.ok (), d) => exact .inr ⟨d, rfl, h⟩
  | (.error _, _) => cases h; exact .inl rfl

variable [Folder δ]

/-- Gives the temporary file the name of the file, or deletes it. -/
def publish (d : δ) : Except IoError Unit × δ :=
  match rename d with
  | (.ok (), d) => (.ok (), d)
  | (.error e, d) => (.error e, (discard d).2)

/-- Replaces the text of the file. -/
def replace (d : δ) (text : String) : Except IoError Unit × δ :=
  andThen (prepare d) fun d =>
    andThen (create d) fun d =>
      andThen (append d text) fun d =>
        andThen (sync d) publish

instance : TextFile δ := ⟨read, replace⟩

end Folder

/-- A folder whose steps do what they say.  Those on the temporary file leave the file alone, and
the temporary file takes its place entirely or not at all. -/
class LawfulFolder (δ : Type) [Folder δ] : Prop where
  read_prepare (d : δ) : Folder.read (Folder.prepare d).2 = Folder.read d
  read_create (d : δ) : Folder.read (Folder.create d).2 = Folder.read d
  read_append (d : δ) (text : String) : Folder.read (Folder.append d text).2 = Folder.read d
  read_sync (d : δ) : Folder.read (Folder.sync d).2 = Folder.read d
  read_discard (d : δ) : Folder.read (Folder.discard d).2 = Folder.read d
  beside_create {d d' : δ} : Folder.create d = (.ok (), d') → Folder.beside d' = .ok ""
  beside_append {d d' : δ} {before text : String} :
    Folder.append d text = (.ok (), d') → Folder.beside d = .ok before →
      Folder.beside d' = .ok (before ++ text)
  beside_sync {d d' : δ} : Folder.sync d = (.ok (), d') → Folder.beside d' = Folder.beside d
  read_rename {d d' : δ} : Folder.rename d = (.ok (), d') → Folder.read d' = Folder.beside d
  read_rename_error {d d' : δ} {e : IoError} :
    Folder.rename d = (.error e, d') → Folder.read d' = Folder.read d

namespace Folder

variable {δ : Type} [Folder δ] {d d' : δ}

/-- A step that leaves the file alone can come before others that leave it alone when they fail. -/
theorem read_of_andThen_error {first : Except IoError Unit × δ}
    {next : δ → Except IoError Unit × δ} {e : IoError} (hfirst : read first.2 = read d)
    (hnext : ∀ d₁ d', next d₁ = (.error e, d') → read d' = read d₁)
    (h : andThen first next = (.error e, d')) : read d' = read d := by
  obtain rfl | ⟨d₁, rfl, h⟩ := andThen_eq_error h
  · exact hfirst
  · exact (hnext d₁ d' h).trans hfirst

variable [LawfulFolder δ]

/-- The file has the new text when its replacement succeeds. -/
theorem read_of_replace {text : String} (h : replace d text = (.ok (), d')) :
    read d' = .ok text := by
  obtain ⟨d₁, -, h⟩ := andThen_eq_ok h
  obtain ⟨d₂, hcreate, h⟩ := andThen_eq_ok h
  obtain ⟨d₃, happend, h⟩ := andThen_eq_ok h
  obtain ⟨d₄, hsync, h⟩ := andThen_eq_ok h
  have hbeside : beside d₄ = .ok text := by
    rw [LawfulFolder.beside_sync hsync,
      LawfulFolder.beside_append happend (LawfulFolder.beside_create hcreate), String.empty_append]
  unfold publish at h
  split at h
  next hrename =>
    cases h
    rw [LawfulFolder.read_rename hrename, hbeside]
  next => cases h

/-- The file is as it was when its new text is not published. -/
theorem read_of_publish_error {e : IoError} (h : publish d = (.error e, d')) :
    read d' = read d := by
  unfold publish at h
  split at h
  next => cases h
  next hrename =>
    cases h
    rw [LawfulFolder.read_discard, LawfulFolder.read_rename_error hrename]

/-- The file is as it was when its replacement fails, at whichever step. -/
theorem read_of_replace_error {text : String} {e : IoError} (h : replace d text = (.error e, d')) :
    read d' = read d := by
  refine read_of_andThen_error (LawfulFolder.read_prepare d) (fun d₁ d' h => ?_) h
  refine read_of_andThen_error (LawfulFolder.read_create d₁) (fun d₂ d' h => ?_) h
  refine read_of_andThen_error (LawfulFolder.read_append d₂ text) (fun d₃ d' h => ?_) h
  exact read_of_andThen_error (LawfulFolder.read_sync d₃) (fun _ _ => read_of_publish_error) h

instance : LawfulTextFile δ := ⟨read_of_replace, read_of_replace_error⟩

end Folder

/-! ## A folder of its own -/

/-- A file and the temporary file beside it, each of which may be something else. -/
structure Shelf where
  content : FileContent := .missing
  beside : FileContent := .missing
  deriving DecidableEq, Repr, Inhabited

namespace Shelf

/-- Makes the temporary file, unless a directory has its name. -/
def create (s : Shelf) : Except IoError Unit × Shelf :=
  if s.beside = .unreadable .isADirectory then (.error .isADirectory, s)
  else (.ok (), { s with beside := .text "" })

/-- Writes at the end of the temporary file. -/
def append (s : Shelf) (text : String) : Except IoError Unit × Shelf :=
  match s.beside with
  | .text before => (.ok (), { s with beside := .text (before ++ text) })
  | .missing => (.error .notFound, s)
  | .unreadable cause => (.error cause, s)

/-- Renames the temporary file, unless a directory has the place of the file. -/
def rename (s : Shelf) : Except IoError Unit × Shelf :=
  match s.beside with
  | .missing => (.error .notFound, s)
  | beside =>
    if s.content = .unreadable .isADirectory then (.error .isADirectory, s)
    else (.ok (), ⟨beside, .missing⟩)

/-- Deletes the temporary file. -/
def discard (s : Shelf) : Except IoError Unit × Shelf :=
  match s.beside with
  | .missing => (.error .notFound, s)
  | .unreadable .isADirectory => (.error .isADirectory, s)
  | _ => (.ok (), { s with beside := .missing })

instance : Folder Shelf where
  read s := s.content.read
  beside s := s.beside.read
  prepare s := (.ok (), s)
  create := create
  append := append
  sync s := (.ok (), s)
  rename := rename
  discard := discard

instance : LawfulFolder Shelf where
  read_prepare _ := rfl
  read_create s := by
    simp only [Folder.create, Folder.read, create]
    split <;> rfl
  read_append s text := by
    simp only [Folder.append, Folder.read, append]
    split <;> rfl
  read_sync _ := rfl
  read_discard s := by
    simp only [Folder.discard, Folder.read, discard]
    split <;> rfl
  beside_create h := by
    simp only [Folder.create, create] at h
    split at h <;> cases h
    rfl
  beside_append {s s' before text} h hbefore := by
    simp only [Folder.append, append] at h
    split at h <;> cases h
    next hbeside =>
      simp only [Folder.beside, hbeside, FileContent.read, Except.ok.injEq] at hbefore
      rw [← hbefore]
      rfl
  beside_sync h := by cases h; rfl
  read_rename {s s'} h := by
    simp only [Folder.rename, rename] at h
    split at h
    · cases h
    · split at h <;> cases h
      rfl
  read_rename_error {s s' e} h := by
    simp only [Folder.rename, rename] at h
    split at h
    · cases h; rfl
    · split at h <;> cases h
      rfl

end Shelf

end TrackerGuard
