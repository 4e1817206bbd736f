import TrackerGuard.Json.Fault
import TrackerGuard.Text.Blank
import TrackerGuard.Text.CodeRanges

/-!
# Reading JSON

A reader takes a text to a value and the rest of the text, or to a fault.  All readers go from left
to right and look at no character before they need it, so the first problem of a text is the one
that is reported, be it one of syntax or one of shape.

The pieces come first: blanks, literals, texts, numbers.  Lists and objects are read by two loops
that take the reader of an item, or of a member, as an argument; they serve both `Json.read`, which
accepts any value, and the readers for values of a given shape.  Lists and objects may be nested
`maxDepth` deep.  A value that nobody asked for is passed over by `skip`, which keeps to the grammar
but neither limits the nesting nor looks at the size of numbers or at the pairing of surrogates.
-/

namespace TrackerGuard.Json

/-- A reader: from a text to a value and the rest of the text. -/
abbrev Reader (α : Type) := List Char → Except Fault (α × List Char)

/-- How deep lists and objects may be nested. -/
def maxDepth : Nat := 127

/-- The blanks of JSON: space, tab, line feed, carriage return. -/
def isSpace (c : Char) : Bool := c == ' ' || c == '\t' || c == '\n' || c == '\r'

/-- The text from its first character that is not blank. -/
def skipSpace (cs : List Char) : List Char := cs.dropWhile isSpace

/-- Reads the given characters. -/
def expect : List Char → List Char → Except Fault (List Char)
  | [], cs => .ok cs
  | _ :: _, [] => .error .endOfText
  | w :: ws, c :: cs => if w = c then expect ws cs else .error .malformed

/-! ## Texts -/

/-- Where a reader stands inside a text. -/
inductive TextState where
  /-- Between characters. -/
  | plain
  /-- After a backslash. -/
  | escape
  /-- Within the four digits of a code unit: how many were read and their value so far; a leading
  surrogate may wait for this unit. -/
  | unit (digits value : Nat) (leading : Option Nat)
  /-- After a leading surrogate, before the backslash of its partner. -/
  | partner (leading : Nat)
  /-- After a leading surrogate and a backslash, before the `u` of its partner. -/
  | partnerEscape (leading : Nat)

/-- The character that a one-letter escape stands for. -/
def unescape? (c : Char) : Option Char :=
  if c = '"' ∨ c = '\\' ∨ c = '/' then some c
  else if c = 'b' then some '\x08'
  else if c = 'f' then some '\x0c'
  else if c = 'n' then some '\n'
  else if c = 'r' then some '\r'
  else if c = 't' then some '\t'
  else none

/-- What four digits mean after a waiting surrogate, if any: a character, or a leading surrogate
that waits in turn; nothing when the surrogates do not pair. -/
def unitMeaning? (leading : Option Nat) (value : Nat) : Option (Char ⊕ Nat) :=
  match leading with
  | some high =>
    if 0xDC00 ≤ value && value ≤ 0xDFFF then
      some (.inl (Char.ofNat ((high - 0xD800) * 0x400 + (value - 0xDC00) + 0x10000)))
    else none
  | none =>
    if 0xDC00 ≤ value && value ≤ 0xDFFF then none
    else if 0xD800 ≤ value && value ≤ 0xDBFF then some (.inr value)
    else some (.inl (Char.ofNat value))

/-- Reads a text from a state to its closing quotation mark; `out` holds its characters backwards.
When `strict` is off, surrogates need not pair.  Where the text ends less than four bytes after
`\u`, it counts as ended whatever these bytes are. -/
def readTextFrom (strict : Bool) : TextState → List Char → Reader (List Char)
  | _, _, [] => .error .endOfText
  | .plain, out, c :: cs =>
    if c = '"' then .ok (out.reverse, cs)
    else if c = '\\' then readTextFrom strict .escape out cs
    else if c.toNat < 0x20 then .error .malformed
    else readTextFrom strict .plain (c :: out) cs
  | .escape, out, c :: cs =>
    if c = 'u' then readTextFrom strict (.unit 0 0 none) out cs
    else
      match unescape? c with
      | some d => readTextFrom strict .plain (d :: out) cs
      | none => .error .malformed
  | .unit digits value leading, out, c :: cs =>
    match Text.hexValue? c with
    | none =>
      .error (if digits + Text.utf8Length ((c :: cs).take 4) < 4 then .endOfText else .malformed)
    | some d =>
      let value := 16 * value + d
      if digits < 3 then readTextFrom strict (.unit (digits + 1) value leading) out cs
      else if strict then
        match unitMeaning? leading value with
        | none => .error .malformed
        | some (.inl ch) => readTextFrom strict .plain (ch :: out) cs
        | some (.inr high) => readTextFrom strict (.partner high) out cs
      else readTextFrom strict .plain out cs
  | .partner high, out, c :: cs =>
    if c = '\\' then readTextFrom strict (.partnerEscape high) out cs else .error .malformed
  | .partnerEscape high, out, c :: cs =>
    if c = 'u' then readTextFrom strict (.unit 0 0 (some high)) out cs else .error .malformed

/-- Reads a text after its opening quotation mark. -/
def readText : Reader String := fun cs => do
  let (out, rest) ← readTextFrom true .plain [] cs
  pure (String.ofList out, rest)

/-! ## Numbers -/

/-- A number as it is spelled. -/
structure Spelling where
  negative : Bool
  whole : List Char
  fraction : Option (List Char)
  /-- The sign and the digits of the exponent; the sign is set for a minus. -/
  exponent : Option (Bool × List Char)

/-- Splits the digits off a text that must start with one.  Where a text ends instead, that is the
fault of its end if `strict`, and else one of its form. -/
def readDigits (strict : Bool) (cs : List Char) : Except Fault (List Char × List Char) :=
  let (ds, rest) := cs.span Char.isDigit
  if ds.isEmpty then .error (if rest.isEmpty && strict then .endOfText else .malformed)
  else .ok (ds, rest)

/-- Reads the digits before the point: a single zero or digits that do not start with one. -/
def readWholeDigits (strict : Bool) (cs : List Char) : Except Fault (List Char × List Char) := do
  let (ds, rest) ← readDigits strict cs
  if ds.head? = some '0' && ds.length ≠ 1 then .error .malformed else pure (ds, rest)

/-- Reads the point and the digits after it, if there is a point. -/
def readFraction (strict : Bool) : Reader (Option (List Char))
  | '.' :: cs => do
    let (ds, rest) ← readDigits strict cs
    pure (some ds, rest)
  | cs => .ok (none, cs)

/-- Reads the exponent, if there is one. -/
def readExponent (strict : Bool) : Reader (Option (Bool × List Char))
  | c :: cs =>
    if c = 'e' || c = 'E' then do
      let (negative, cs) := match cs with
        | '+' :: r => (false, r)
        | '-' :: r => (true, r)
        | r => (false, r)
      let (ds, rest) ← readDigits strict cs
      pure (some (negative, ds), rest)
    else .ok (none, c :: cs)
  | [] => .ok (none, [])

/-- Reads the spelling of a number. -/
def readSpelling (strict : Bool) : Reader Spelling := fun cs => do
  let (negative, cs) := match cs with
    | '-' :: r => (true, r)
    | r => (false, r)
  let (whole, cs) ← readWholeDigits strict cs
  let (fraction, cs) ← readFraction strict cs
  let (exponent, cs) ← readExponent strict cs
  pure (⟨negative, whole, fraction, exponent⟩, cs)

/-- Appends digits to a significand as long as it fits into 64 bits: the significand and how many
digits were taken. -/
def gather : UInt64 → Nat → List Char → UInt64 × Nat
  | n, taken, [] => (n, taken)
  | n, taken, c :: cs =>
    let next := n.toNat * 10 + (c.toNat - 48)
    if next < wordLimit then gather (UInt64.ofNat next) (taken + 1) cs else (n, taken)

/-- The number of a run of decimal digits. -/
def decimalValue (cs : List Char) : Nat := cs.foldl (fun n c => n * 10 + (c.toNat - 48)) 0

/-- The number of a spelling: an integer of 64 bits if it is spelled as one, else a double; none
when it is too large for a double. -/
def Spelling.number? (s : Spelling) : Option Number :=
  let (n, taken) := gather 0 0 s.whole
  let excess : Int := s.whole.length - taken
  let integer := if s.negative then -(n.toNat : Int) else n.toNat
  if s.fraction.isNone && s.exponent.isNone && excess = 0 && leastInteger ≤ integer &&
      !(s.negative && n = 0) then
    some (.integer integer)
  else
    let (n, places) := gather n 0 (s.fraction.getD [])
    let power : Int := match s.exponent with
      | none => 0
      | some (negative, ds) => if negative then -(decimalValue ds : Int) else decimalValue ds
    (Double.ofDecimal? s.negative n (excess - places + power)).map .double

/-- Reads a number. -/
def readNumber : Reader Number := fun cs => do
  let (s, rest) ← readSpelling true cs
  match s.number? with
  | some n => pure (n, rest)
  | none => .error .malformed

/-- Whether a number may start with the character. -/
def startsNumber (c : Char) : Bool := c == '-' || c.isDigit

/-! ## Lists and objects -/

/-- Looks for the next item of a list, the first one or one after a comma: the text from its first
character, or nothing where the list is closed. -/
def nextItem? (first : Bool) (cs : List Char) : Except Fault (Option (List Char)) :=
  match skipSpace cs with
  | [] => .error .endOfText
  | c :: rest =>
    if c = ']' then .ok none
    else if first then .ok (some (c :: rest))
    else if c = ',' then
      match skipSpace rest with
      | [] => .error .endOfText
      | d :: rest => if d = ']' then .error .malformed else .ok (some (d :: rest))
    else .error .malformed

/-- Reads the end of a list or of an object. -/
def readClosing (closing : Char) : Reader Unit := fun cs =>
  match skipSpace cs with
  | [] => .error .endOfText
  | c :: rest => if c = closing then .ok ((), rest) else .error .malformed

/-- Reads the name of the next member of an object, the first one or one after a comma, or nothing
where the object is closed. -/
def nextName? (first : Bool) : Reader (Option String) := fun cs =>
  let name (cs : List Char) : Except Fault (Option String × List Char) :=
    match cs with
    | [] => .error .endOfText
    | c :: rest =>
      if c = '"' then (readText rest).map fun (s, rest) => (some s, rest) else .error .malformed
  match skipSpace cs with
  | [] => .error .endOfText
  | c :: rest =>
    if c = '\x7d' then .ok (none, c :: rest)
    else if first then name (c :: rest)
    else if c = ',' then name (skipSpace rest)
    else .error .malformed

/-- Reads the colon between the name and the value of a member. -/
def readColon : Reader Unit := readClosing ':'

/-- Reads items up to the end of a list; `out` holds those before, backwards.  The first number
bounds how many follow. -/
def readItemsFrom {α : Type} (item : Reader α) : Nat → Bool → List α → Reader (List α)
  | 0, _, _, _ => .error .malformed
  | bound + 1, first, out, cs => do
    match ← nextItem? first cs with
    | none =>
      let ((), rest) ← readClosing ']' cs
      pure (out.reverse, rest)
    | some cs =>
      let (x, rest) ← item cs
      readItemsFrom item bound false (x :: out) rest

/-- Reads the items of a list after its opening bracket. -/
def readItems {α : Type} (bound : Nat) (item : Reader α) : Reader (List α) :=
  readItemsFrom item bound true []

/-- Reads members up to the end of an object.  `member` is given what the members before came to
and the name of the next one, and reads the colon and the value.  The first number bounds how many
follow. -/
def readMembersFrom {σ : Type} (member : σ → String → Reader σ) : Nat → Bool → σ → Reader σ
  | 0, _, _, _ => .error .malformed
  | bound + 1, first, acc, cs => do
    match ← nextName? first cs with
    | (none, cs) =>
      let ((), rest) ← readClosing '\x7d' cs
      pure (acc, rest)
    | (some name, cs) =>
      let (acc, rest) ← member acc name cs
      readMembersFrom member bound false acc rest

/-- Reads the members of an object after its opening brace. -/
def readMembers {σ : Type} (bound : Nat) (member : σ → String → Reader σ) (start : σ) : Reader σ :=
  readMembersFrom member bound true start

/-! ## Any value -/

/-- Reads a value, given readers for the inside of lists and of objects. -/
def readValueWith (list object : Reader Json) : Reader Json := fun cs =>
  match skipSpace cs with
  | [] => .error .endOfText
  | c :: rest =>
    if c = '"' then (readText rest).map fun (s, rest) => (.text s, rest)
    else if c = '[' then list rest
    else if c = '\x7b' then object rest
    else if c = 'n' then (expect ['u', 'l', 'l'] rest).map fun rest => (.null, rest)
    else if c = 't' then (expect ['r', 'u', 'e'] rest).map fun rest => (.bool true, rest)
    else if c = 'f' then (expect ['a', 'l', 's', 'e'] rest).map fun rest => (.bool false, rest)
    else if startsNumber c then (readNumber (c :: rest)).map fun (n, rest) => (.number n, rest)
    else .error .malformed

/-- The inside of a list or of an object that is nested too deep. -/
def tooDeep {α : Type} : Reader α := fun _ => .error .malformed

/-- Reads a member of an object and puts it among those before it. -/
def readEntry {α : Type} (value : Reader α) (acc : Dictionary α) (name : String) :
    Reader (Dictionary α) := fun cs => do
  let ((), cs) ← readColon cs
  let (v, cs) ← value cs
  pure (acc.insert name v, cs)

/-- Reads a value in which lists and objects are nested `depth` deep at most and have fewer than
`bound` items or members. -/
def readValue (bound : Nat) : (depth : Nat) → Reader Json
  | 0 => readValueWith tooDeep tooDeep
  | depth + 1 =>
    readValueWith
      (fun cs => (readItems bound (readValue bound depth) cs).map fun (xs, rest) =>
        (.list xs, rest))
      (fun cs => (readMembers bound (readEntry (readValue bound depth)) [] cs).map
        fun (ms, rest) => (.object ms, rest))

/-- Reads a whole text: after the value only blanks may follow.  The reader is told a bound above
the number of items that a list of the text can have. -/
def readWhole {α : Type} (reader : (bound : Nat) → Reader α) (text : String) : Except Fault α := do
  let cs := text.toList
  let (x, rest) ← reader (cs.length + 1) cs
  if (skipSpace rest).isEmpty then pure x else .error .malformed

/-- The value of a text. -/
def read (text : String) : Except Fault Json := readWhole (readValue · maxDepth) text

/-! ## Values passed over -/

/-- What is looked for next while a value is passed over. -/
inductive SkipState where
  /-- A value. -/
  | value
  /-- The first item or member, or the end, of what was just opened. -/
  | opened
  /-- A member. -/
  | member
  /-- What follows a value. -/
  | after

/-- One step of passing over a value.  The list tells what is open, innermost first: a list where
it is set, an object where it is not. -/
def skipStep : SkipState → List Bool → List Char →
    Except Fault (SkipState × List Bool × List Char)
  | .value, nesting, cs =>
    match cs with
    | [] => .error .endOfText
    | c :: rest =>
      if c = '"' then
        (readTextFrom false .plain [] rest).map fun (_, rest) => (.after, nesting, rest)
      else if c = '[' then .ok (.opened, true :: nesting, rest)
      else if c = '\x7b' then .ok (.opened, false :: nesting, rest)
      else if c = 'n' then (expect ['u', 'l', 'l'] rest).map fun rest => (.after, nesting, rest)
      else if c = 't' then (expect ['r', 'u', 'e'] rest).map fun rest => (.after, nesting, rest)
      else if c = 'f' then
        (expect ['a', 'l', 's', 'e'] rest).map fun rest => (.after, nesting, rest)
      else if startsNumber c then
        (readSpelling false (c :: rest)).map fun (_, rest) => (.after, nesting, rest)
      else .error .malformed
  | .opened, nesting, cs =>
    match cs, nesting with
    | [], _ => .error .endOfText
    | c :: rest, true :: outer =>
      if c = ']' then .ok (.after, outer, rest) else .ok (.value, nesting, c :: rest)
    | c :: rest, _ =>
      if c = '\x7d' then .ok (.after, nesting.drop 1, rest) else .ok (.member, nesting, c :: rest)
  | .member, nesting, cs =>
    match cs with
    | [] => .error .endOfText
    | c :: rest =>
      if c = '"' then do
        let (_, rest) ← readTextFrom false .plain [] rest
        let ((), rest) ← readColon rest
        pure (.value, nesting, rest)
      else .error .malformed
  | .after, nesting, cs =>
    match cs, nesting with
    | [], _ => .error .endOfText
    | c :: rest, isList :: outer =>
      if c = ',' then .ok (if isList then .value else .member, nesting, rest)
      else if c = (if isList then ']' else '\x7d') then .ok (.after, outer, rest)
      else .error .malformed
    | _ :: _, [] => .error .malformed

/-- Passes over the rest of a value; the first number bounds the steps. -/
def skipFrom : Nat → SkipState → List Bool → Reader Unit
  | _, .after, [], cs => .ok ((), cs)
  | 0, _, _, _ => .error .malformed
  | bound + 1, state, nesting, cs => do
    let (state, nesting, rest) ← skipStep state nesting (skipSpace cs)
    skipFrom bound state nesting rest

/-- Passes over a value of fewer than `bound` characters: at least every second step takes one. -/
def skip (bound : Nat) : Reader Unit := skipFrom (2 * bound + 2) .value []

end TrackerGuard.Json
