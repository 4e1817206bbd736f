import TrackerGuard.Json.Writer

/-!
# What can be wrong with a JSON text

A text is read from left to right and the first problem met is the one reported.  Three causes are
told apart: the text ends too early, it is not JSON, or it is JSON of another shape than the one
that was asked for.  Only the last one carries a message that belongs to this library.
-/

namespace TrackerGuard.Json

/-- What stands in a text where something else was asked for. -/
inductive Found where
  | null
  | bool (value : Bool)
  | number (value : Number)
  | text (value : String)
  | list
  | object
  deriving DecidableEq, Repr

/-- The kind of a value. -/
def found : Json → Found
  | .null => .null
  | .bool b => .bool b
  | .number n => .number n
  | .text s => .text s
  | .list _ => .list
  | .object _ => .object

/-- How a message names what was found. -/
def Found.describe : Found → String
  | .null => "null"
  | .bool b => "boolean `" ++ (if b then "true" else "false") ++ "`"
  | .number (.integer n) => "integer `" ++ String.ofList (writeInt n) ++ "`"
  | .number (.double d) => "floating point `" ++ String.ofList d.text ++ "`"
  | .text s => "string " ++ Text.quote s
  | .list => "sequence"
  | .object => "map"

/-- A well-formed text of another shape than the one asked for. -/
inductive Mismatch where
  /-- A value of another kind. -/
  | wrongType (found : Found) (wanted : String)
  /-- A list with too few items, or with too many. -/
  | wrongLength (length : Nat) (wanted : String)
  /-- An object without a member that it must have. -/
  | missingField (name : String)
  /-- An object with a member twice. -/
  | duplicateField (name : String)
  /-- A name that is none of the listed ones. -/
  | unknownVariant (name : String) (known : List String)
  deriving DecidableEq, Repr

/-- The names to choose from, as a message lists them. -/
def alternatives (names : List String) : String :=
  let shown := names.map fun n => "`" ++ n ++ "`"
  match shown with
  | [a] => a
  | [a, b] => a ++ " or " ++ b
  | _ => "one of " ++ ", ".intercalate shown

/-- The message of a mismatch. -/
def Mismatch.message : Mismatch → String
  | .wrongType found wanted => "invalid type: " ++ found.describe ++ ", expected " ++ wanted
  | .wrongLength n wanted => "invalid length " ++ toString n ++ ", expected " ++ wanted
  | .missingField name => "missing field `" ++ name ++ "`"
  | .duplicateField name => "duplicate field `" ++ name ++ "`"
  | .unknownVariant name known =>
    "unknown variant `" ++ name ++ "`, expected " ++ alternatives known

/-- Why a text could not be read. -/
inductive Fault where
  /-- The text ends before the value does. -/
  | endOfText
  /-- The text is not JSON. -/
  | malformed
  /-- The text is JSON of another shape. -/
  | mismatch (cause : Mismatch)
  deriving DecidableEq, Repr

/-- The wording of a fault. -/
def Fault.message : Fault → String
  | .endOfText => "the text ends too early"
  | .malformed => "the text is not JSON"
  | .mismatch cause => cause.message

end TrackerGuard.Json
