/-!
# Files

A file that holds a text, as far as a program sees it: it can be read and it can be replaced, and
either may fail.  Replacing is all or nothing, so a failure leaves the file as it was.  `TextFile`
says this of any kind of file, and `FileCell` is one that stands alone, with whatever may be in the
way of reading and writing it.
-/

namespace TrackerGuard

/-- Why a file could not be read or written. -/
inductive IoError where
  /-- There is no such file. -/
  | notFound
  /-- Something on the way to the file is a file itself. -/
  | notADirectory
  /-- A directory has the name of the file. -/
  | isADirectory
  /-- The bytes of the file are not text. -/
  | notText
  /-- The place cannot be replaced. -/
  | busy
  /-- The storage does not take writes. -/
  | refused
  deriving DecidableEq, Repr, Inhabited

namespace IoError

/-- The name of the kind of an error. -/
def kind : IoError → String
  | .notFound => "NotFound"
  | .notADirectory => "NotADirectory"
  | .isADirectory => "IsADirectory"
  | .notText => "InvalidData"
  | .busy => "ResourceBusy"
  | .refused => "Other"

/-- The wording of an error. -/
def message : IoError → String
  | .notFound => "No such file or directory (os error 2)"
  | .notADirectory => "Not a directory (os error 20)"
  | .isADirectory => "Is a directory (os error 21)"
  | .notText => "stream did not contain valid UTF-8"
  | .busy => "Device or resource busy (os error 16)"
  | .refused => "write refused"

end IoError

/-- A place that holds one text. -/
class TextFile (φ : Type) where
  /-- The text. -/
  read : φ → Except IoError String
  /-- Replaces the text. -/
  write : φ → String → Except IoError Unit × φ

/-- A file that is replaced as a whole or not at all. -/
class LawfulTextFile (φ : Type) [TextFile φ] : Prop where
  read_of_ok {f f' : φ} {text : String} :
    TextFile.write f text = (.ok (), f') → TextFile.read f' = .ok text
  read_of_error {f f' : φ} {text : String} {e : IoError} :
    TextFile.write f text = (.error e, f') → TextFile.read f' = TextFile.read f

/-! ## A file of its own -/

/-- What is in the place of a file. -/
inductive FileContent where
  | missing
  | text (content : String)
  /-- Something that cannot be read. -/
  | unreadable (cause : IoError)
  deriving DecidableEq, Repr, Inhabited

/-- The text of what is in the place of a file. -/
def FileContent.read : FileContent → Except IoError String
  | .missing => .error .notFound
  | .text content => .ok content
  | .unreadable cause => .error cause

/-- A file that stands alone. -/
structure FileCell where
  content : FileContent := .missing
  /-- What keeps the file from being written, if anything does. -/
  obstacle : Option IoError := none
  deriving DecidableEq, Repr, Inhabited

namespace FileCell

/-- The text of the file. -/
def read (f : FileCell) : Except IoError String := f.content.read

/-- What keeps the file from being written: an obstacle, or a directory of its name. -/
def fault? (f : FileCell) : Option IoError :=
  match f.obstacle with
  | some e => some e
  | none => if f.content = .unreadable .isADirectory then some .isADirectory else none

/-- Replaces the text of the file. -/
def write (f : FileCell) (text : String) : Except IoError Unit × FileCell :=
  match f.fault? with
  | some e => (.error e, f)
  | none => (.ok (), { f with content := .text text })

instance : TextFile FileCell := ⟨read, write⟩

instance : LawfulTextFile FileCell where
  read_of_ok {f f' text} h := by
    simp only [TextFile.write, write] at h
    split at h <;> cases h
    rfl
  read_of_error {f f' text e} h := by
    simp only [TextFile.write, write] at h
    split at h <;> cases h
    rfl

end FileCell

end TrackerGuard
