import TrackerGuard.Text.Quoted

/-!
# The grammar of filters

A platform's content filter takes regular expressions of a small dialect: without alternation,
without counted repetition, and in ASCII.  `Filter.fault?` reports the first character of a text
that the dialect does not have.  The position is that of its first byte.

The compiler and the runtime index both leave out the domains that cannot be put into a filter, and
both decide this here.
-/

namespace TrackerGuard

/-- A construct that a filter must not have. -/
inductive Filter.Fault where
  | alternation (position : Nat)
  | repetition (char : Char) (position : Nat)
  | nonAscii (char : Char) (position : Nat)
  deriving DecidableEq, Repr

namespace Filter

/-- The wording of a fault. -/
def Fault.message : Fault → String
  | .alternation n => "alternation '|' at byte " ++ toString n
  | .repetition c n =>
    "counted repetition '" ++ String.singleton c ++ "' at byte " ++ toString n
  | .nonAscii c n => "non-ASCII character " ++ Text.quoteChar c ++ " at byte " ++ toString n

/-- What is wrong with a character at a position. -/
def charFault? (c : Char) (position : Nat) : Option Fault :=
  if c = '|' then some (.alternation position)
  else if c = '\x7b' ∨ c = '\x7d' then some (.repetition c position)
  else if 0x80 ≤ c.toNat then some (.nonAscii c position)
  else none

/-- The first fault of a text that starts at a position. -/
def faultFrom? (position : Nat) : List Char → Option Fault
  | [] => none
  | c :: cs =>
    match charFault? c position with
    | some fault => some fault
    | none => faultFrom? (position + c.utf8Size) cs

/-- The first construct of a text that a filter must not have. -/
def fault? (filter : String) : Option Fault := faultFrom? 0 filter.toList

end Filter

end TrackerGuard
