import TrackerGuard.Json.Value
import TrackerGuard.Text.Quoted

/-!
# Writing JSON

Two layouts of one value.  The compact layout has no blanks; documents that a program loads are
written in it.  The open layout puts every item and member on a line of its own, indented by two
spaces a level, and a space after each colon; an empty list is `[]` and an empty object `{}`.

Inside a text the quotation mark, the backslash and the control characters below the space are
escaped, and nothing else.
-/

namespace TrackerGuard.Json

/-- A character inside a JSON text. -/
def escapeChar (c : Char) : List Char :=
  if c = '"' then ['\\', '"']
  else if c = '\\' then ['\\', '\\']
  else if c = '\n' then ['\\', 'n']
  else if c = '\r' then ['\\', 'r']
  else if c = '\t' then ['\\', 't']
  else if c.toNat = 0x08 then ['\\', 'b']
  else if c.toNat = 0x0C then ['\\', 'f']
  else if c.toNat < 0x20 then
    ['\\', 'u', '0', '0', Text.hexDigit (c.toNat / 16), Text.hexDigit (c.toNat % 16)]
  else [c]

/-- The text between quotation marks. -/
def writeText (s : String) : List Char := '"' :: s.toList.flatMap escapeChar ++ ['"']

/-- The digits of an integer, with a minus sign below zero. -/
def writeInt (n : Int) : List Char :=
  (if n < 0 then ['-'] else []) ++ Nat.toDigits 10 n.natAbs

/-- A number. -/
def Number.write : Number → List Char
  | .integer n => writeInt n
  | .double d => d.text

/-- The literal of a truth value. -/
def writeBool (b : Bool) : List Char :=
  if b then ['t', 'r', 'u', 'e'] else ['f', 'a', 'l', 's', 'e']

/-- Written items with a comma between them, in brackets. -/
def bracket (items : List (List Char)) : List Char := '[' :: [','].intercalate items ++ [']']

/-- Written members with a comma between them, in braces. -/
def brace (members : List (List Char)) : List Char :=
  '\x7b' :: [','].intercalate members ++ ['\x7d']

/-- A member of an object in the compact layout, from its name and its written value. -/
def writeMember (name : String) (value : List Char) : List Char := writeText name ++ ':' :: value

/-! ## The compact layout -/

mutual

/-- The value in the compact layout. -/
def write : Json → List Char
  | .null => ['n', 'u', 'l', 'l']
  | .bool b => writeBool b
  | .number n => n.write
  | .text s => writeText s
  | .list items => bracket (writeItems items)
  | .object members => brace (writeMembers members)

/-- The items of a list, each in the compact layout. -/
def writeItems : List Json → List (List Char)
  | [] => []
  | v :: rest => write v :: writeItems rest

/-- The members of an object, each in the compact layout. -/
def writeMembers : List (String × Json) → List (List Char)
  | [] => []
  | (name, v) :: rest => writeMember name (write v) :: writeMembers rest

end

/-- The text of the value in the compact layout. -/
def compact (v : Json) : String := String.ofList v.write

/-! ## The open layout -/

/-- A line break and the indentation of a level. -/
def newLine (level : Nat) : List Char := '\n' :: List.replicate (2 * level) ' '

/-- Written lines between an opening and a closing character, one level deeper than these. -/
def enclose (opening closing : Char) (level : Nat) (lines : List (List Char)) : List Char :=
  if lines.isEmpty then [opening, closing]
  else opening :: [','].intercalate (lines.map (newLine (level + 1) ++ ·)) ++
    newLine level ++ [closing]

mutual

/-- The value in the open layout, at a level of indentation. -/
def layOut (level : Nat) : Json → List Char
  | .null => ['n', 'u', 'l', 'l']
  | .bool b => writeBool b
  | .number n => n.write
  | .text s => writeText s
  | .list items => enclose '[' ']' level (layOutItems (level + 1) items)
  | .object members => enclose '\x7b' '\x7d' level (layOutMembers (level + 1) members)

/-- The items of a list, each in the open layout. -/
def layOutItems (level : Nat) : List Json → List (List Char)
  | [] => []
  | v :: rest => layOut level v :: layOutItems level rest

/-- The members of an object, each in the open layout. -/
def layOutMembers (level : Nat) : List (String × Json) → List (List Char)
  | [] => []
  | (name, v) :: rest =>
    (writeText name ++ ':' :: ' ' :: layOut level v) :: layOutMembers level rest

end

/-- The text of the value in the open layout. -/
def pretty (v : Json) : String := String.ofList (v.layOut 0)

end TrackerGuard.Json
