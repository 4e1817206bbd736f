import TrackerGuard.Json.Reader

/-!
# Readers for values of a given shape

Where a text must hold a truth value, a text, a list or an object of a certain make, these readers
take it or say what stands there instead.  They are assembled by the modules that own the shapes.

A record may be written as an object, whose members come in any order and may have strangers among
them, or as a list of its fields in order.
-/

namespace TrackerGuard.Json

/-- The fault of a text that holds something else than what is wanted; the value is read as far as
it takes to name it. -/
def faultAt (wanted : String) (cs : List Char) : Fault :=
  let named (found : Except Fault Found) : Fault :=
    match found with
    | .ok f => .mismatch (.wrongType f wanted)
    | .error fault => fault
  match cs with
  | [] => .endOfText
  | c :: rest =>
    if c = '"' then named ((readText rest).map fun (s, _) => .text s)
    else if c = '[' then named (.ok .list)
    else if c = '\x7b' then named (.ok .object)
    else if c = 'n' then named ((expect ['u', 'l', 'l'] rest).map fun _ => .null)
    else if c = 't' then named ((expect ['r', 'u', 'e'] rest).map fun _ => .bool true)
    else if c = 'f' then named ((expect ['a', 'l', 's', 'e'] rest).map fun _ => .bool false)
    else if startsNumber c then named ((readNumber (c :: rest)).map fun (n, _) => .number n)
    else .malformed

/-- Reads a truth value. -/
def boolean : Reader Bool := fun cs =>
  match skipSpace cs with
  | 't' :: rest => (expect ['r', 'u', 'e'] rest).map fun rest => (true, rest)
  | 'f' :: rest => (expect ['a', 'l', 's', 'e'] rest).map fun rest => (false, rest)
  | cs => .error (faultAt "a boolean" cs)

/-- Reads a text; `wanted` names it in messages. -/
def textAs (wanted : String) : Reader String := fun cs =>
  match skipSpace cs with
  | '"' :: rest => readText rest
  | cs => .error (faultAt wanted cs)

/-- Reads a text. -/
def string : Reader String := textAs "a string"

/-- Reads the literal `null`, and nothing else. -/
def unit : Reader Unit := fun cs =>
  match skipSpace cs with
  | 'n' :: rest => (expect ['u', 'l', 'l'] rest).map fun rest => ((), rest)
  | cs => .error (faultAt "unit" cs)

/-- Reads a value that may also be `null`. -/
def optional {α : Type} (value : Reader α) : Reader (Option α) := fun cs =>
  match skipSpace cs with
  | 'n' :: rest => (expect ['u', 'l', 'l'] rest).map fun rest => (none, rest)
  | cs => (value cs).map fun (x, rest) => (some x, rest)

/-- Reads a list.  The reader of its items is told how deep they may be nested. -/
def listOf {α : Type} (bound depth : Nat) (item : (depth : Nat) → Reader α) : Reader (List α) :=
  fun cs =>
    match skipSpace cs, depth with
    | '[' :: rest, depth + 1 => readItems bound (item depth) rest
    | '[' :: _, 0 => .error .malformed
    | cs, _ => .error (faultAt "a sequence" cs)

/-- Reads an object as a dictionary of values of any kind. -/
def dictionary (bound depth : Nat) : Reader (Dictionary Json) := fun cs =>
  match skipSpace cs, depth with
  | '\x7b' :: rest, depth + 1 => readMembers bound (readEntry (readValue bound depth)) [] rest
  | '\x7b' :: _, 0 => .error .malformed
  | cs, _ => .error (faultAt "a map" cs)

/-- Reads one of the known names as the value it stands for. -/
def variant {α : Type} (known : List (String × α)) (name : String) : Except Fault α :=
  match Dictionary.find? name known with
  | some x => .ok x
  | none => .error (.mismatch (.unknownVariant name (known.map (·.1))))

/-- Reads a name out of a fixed choice: as a text, or as an object whose only member has that name
and the value `null`. -/
def choice {α : Type} (depth : Nat) (known : List (String × α)) : Reader α := fun cs =>
  match skipSpace cs with
  | '"' :: rest => do
    let (name, rest) ← readText rest
    pure (← variant known name, rest)
  | '\x7b' :: rest =>
    if depth = 0 then .error .malformed
    else do
      let (name, rest) ← textAs "variant identifier" rest
      let x ← variant known name
      let ((), rest) ← readColon rest
      let ((), rest) ← unit rest
      let ((), rest) ← readClosing '\x7d' rest
      pure (x, rest)
  | [] => .error .endOfText
  | _ => .error .malformed

/-! ## Records -/

/-- Reads the value of a field that has not been read yet. -/
def field {α : Type} (name : String) (before : Option α) (value : Reader α) : Reader (Option α) :=
  fun cs =>
    if before.isSome then .error (.mismatch (.duplicateField name))
    else do
      let ((), cs) ← readColon cs
      let (x, rest) ← value cs
      pure (some x, rest)

/-- Passes over the value of a member that the record does not know. -/
def stranger {σ : Type} (bound : Nat) (acc : σ) : Reader σ := fun cs => do
  let ((), cs) ← readColon cs
  let ((), rest) ← skip bound cs
  pure (acc, rest)

/-- A field that must have been read. -/
def required {α : Type} (name : String) (x : Option α) : Except Fault α :=
  match x with
  | some x => .ok x
  | none => .error (.mismatch (.missingField name))

/-- Reads the next field of a record written as a list; `index` fields stand before it. -/
def fieldAt {α : Type} (index : Nat) (value : Reader α) : Reader (Option α) := fun cs => do
  match ← nextItem? (index == 0) cs with
  | none => pure (none, cs)
  | some cs =>
    let (x, rest) ← value cs
    pure (some x, rest)

/-- A field of a record written as a list that must have been there. -/
def requiredAt {α : Type} (index : Nat) (wanted : String) (x : Option α) : Except Fault α :=
  match x with
  | some x => .ok x
  | none => .error (.mismatch (.wrongLength index wanted))

/-- Reads a record in either form: `fromList` reads its fields after the opening bracket, up to but
without the closing one; `fromObject` reads all of its members after the opening brace. -/
def record {α : Type} (wanted : String) (depth : Nat)
    (fromList fromObject : (depth : Nat) → Reader α) : Reader α := fun cs =>
  match skipSpace cs, depth with
  | '[' :: rest, depth + 1 => do
    let (x, rest) ← fromList depth rest
    let ((), rest) ← readClosing ']' rest
    pure (x, rest)
  | '\x7b' :: rest, depth + 1 => fromObject depth rest
  | '[' :: _, 0 => .error .malformed
  | '\x7b' :: _, 0 => .error .malformed
  | cs, _ => .error (faultAt wanted cs)

end TrackerGuard.Json
