import TrackerGuard.Json.Double
import TrackerGuard.Text.Dictionary

/-!
# JSON values

The values that settings hold and that documents are read into.  A number is an integer when it is
written as one and fits into 64 bits with or without a sign; every other number is a double.  The
members of an object are a dictionary: in ascending order, each name once.
-/

namespace TrackerGuard

/-- A number of a JSON text. -/
inductive Json.Number where
  | integer (value : Int)
  | double (value : Json.Double)
  deriving DecidableEq, Repr, Inhabited

/-- A JSON value. -/
inductive Json where
  | null
  | bool (value : Bool)
  | number (value : Json.Number)
  | text (value : String)
  | list (items : List Json)
  | object (members : List (String × Json))
  deriving Repr, Inhabited

namespace Json

/-- The integer as a JSON value. -/
def int (n : Int) : Json := .number (.integer n)

/-- The natural number as a JSON value. -/
def nat (n : Nat) : Json := .int n

/-- The list of texts as a JSON value. -/
def texts (xs : List String) : Json := .list (xs.map .text)

/-- An object with the given members, of which the last one under a name counts. -/
def ofMembers (members : List (String × Json)) : Json := .object (Dictionary.ofList members)

/-- The text, if the value is one. -/
def text? : Json → Option String
  | .text s => some s
  | _ => none

/-- One more than the largest number of 64 bits without a sign. -/
def wordLimit : Nat := 18446744073709551616

/-- The least number of 64 bits with a sign. -/
def leastInteger : Int := -9223372036854775808

/-- The integers that are written without a point: those of 64 bits, with or without a sign. -/
def InRange (n : Int) : Prop := leastInteger ≤ n ∧ n < wordLimit

end Json

end TrackerGuard
