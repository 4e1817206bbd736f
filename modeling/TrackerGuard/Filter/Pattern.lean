import TrackerGuard.Filter.Grammar

/-!
# What filters match

The dialect of filters as patterns with their meaning.  A pattern spans a part of a text, and
whether it does may depend on what stands before and after it, because `^` and `$` hold at the ends
of the text only.  A filter matches a text if its pattern spans a part of it.

`Pattern.ofText?` reads the written form: groups, the characters of brackets, the postfix operators
`?`, `*` and `+`, the full stop for every character but the line feed, the two anchors, and a
backslash before a character that stands for itself.
-/

namespace TrackerGuard.Filter

/-- A regular expression of the dialect. -/
inductive Pattern where
  /-- Nothing. -/
  | empty
  /-- A certain character. -/
  | char (c : Char)
  /-- Any character but a line feed. -/
  | any
  /-- One of some characters. -/
  | oneOf (cs : List Char)
  /-- One pattern and then another. -/
  | both (first second : Pattern)
  /-- A pattern or nothing. -/
  | optional (p : Pattern)
  /-- A pattern any number of times. -/
  | many (p : Pattern)
  /-- The start of the text. -/
  | start
  /-- The end of the text. -/
  | finish
  deriving DecidableEq, Repr, Inhabited

namespace Pattern

/-! ## Meaning -/

/-- `Spans fold p before part after`: in the text `before ++ part ++ after` the pattern matches just
`part`.  Two characters are alike if `fold` takes them to the same one. -/
inductive Spans (fold : Char → Char) :
    Pattern → List Char → List Char → List Char → Prop where
  | empty {before after} : Spans fold .empty before [] after
  | char {c d before after} : fold c = fold d → Spans fold (.char c) before [d] after
  | any {c before after} : c ≠ '\n' → Spans fold .any before [c] after
  | oneOf {cs c d before after} :
      c ∈ cs → fold c = fold d → Spans fold (.oneOf cs) before [d] after
  | both {p q before part part' after} :
      Spans fold p before part (part' ++ after) → Spans fold q (before ++ part) part' after →
      Spans fold (.both p q) before (part ++ part') after
  | without {p before after} : Spans fold (.optional p) before [] after
  | once {p before part after} :
      Spans fold p before part after → Spans fold (.optional p) before part after
  | never {p before after} : Spans fold (.many p) before [] after
  | again {p before part part' after} :
      Spans fold p before part (part' ++ after) →
      Spans fold (.many p) (before ++ part) part' after →
      Spans fold (.many p) before (part ++ part') after
  | start {after} : Spans fold .start [] [] after
  | finish {before} : Spans fold .finish before [] []

/-- The pattern matches a part of the text. -/
def Matches (fold : Char → Char) (p : Pattern) (text : List Char) : Prop :=
  ∃ before part after, text = before ++ part ++ after ∧ p.Spans fold before part after

/-! ## Reading -/

/-- One pattern after another, from the last to the first. -/
def chain (items : List Pattern) : Pattern := items.foldl (fun p q => .both q p) .empty

/-- A postfix operator on the last item. -/
def postfixed (op : Pattern → Pattern) : List Pattern → Option (List Pattern)
  | [] => none
  | p :: items => some (op p :: items)

/-- Whether a character stands for itself inside brackets. -/
def isPlainInBrackets (c : Char) : Bool :=
  c != '[' && c != '\\' && c != '^' && c != '-' && c != '&' && c != '~'

/-- Where a reader of patterns stands. -/
inductive Mode where
  | plain
  /-- Behind a backslash. -/
  | escape
  /-- Inside brackets, with the characters so far. -/
  | brackets (cs : List Char)

/-- Reads a pattern.  `items` are those of the innermost open group, backwards, and `outer` those of
the groups around it. -/
def read :
    Mode → (items : List Pattern) → (outer : List (List Pattern)) → List Char → Option Pattern
  | .plain, items, [], [] => some (chain items)
  | _, _, _, [] => none
  | .escape, items, outer, c :: cs => read .plain (.char c :: items) outer cs
  | .brackets set, items, outer, c :: cs =>
    if c = ']' then
      if set.isEmpty then none else read .plain (.oneOf set.reverse :: items) outer cs
    else if isPlainInBrackets c then read (.brackets (c :: set)) items outer cs
    else none
  | .plain, items, outer, c :: cs =>
    if (charFault? c 0).isSome then none
    else if c = '\\' then read .escape items outer cs
    else if c = '[' then read (.brackets []) items outer cs
    else if c = '(' then read .plain [] (items :: outer) cs
    else if c = ')' then
      match outer with
      | [] => none
      | around :: outer => read .plain (chain items :: around) outer cs
    else if c = '?' then (postfixed .optional items).bind fun items => read .plain items outer cs
    else if c = '*' then (postfixed .many items).bind fun items => read .plain items outer cs
    else if c = '+' then
      (postfixed (fun p => .both p (.many p)) items).bind fun items => read .plain items outer cs
    else if c = '.' then read .plain (.any :: items) outer cs
    else if c = '^' then read .plain (.start :: items) outer cs
    else if c = '$' then read .plain (.finish :: items) outer cs
    else if c = ']' then none
    else read .plain (.char c :: items) outer cs

/-- The pattern of a text. -/
def ofText? (text : String) : Option Pattern := read .plain [] [] text.toList

end Pattern

/-- How two characters are compared: as they are, or without regard to the case of the letters. -/
def foldCase (caseSensitive : Bool) (c : Char) : Char := if caseSensitive then c else c.toLower

/-- The filter matches the URL. -/
def Matches (filter : String) (caseSensitive : Bool) (url : String) : Prop :=
  ∃ p, Pattern.ofText? filter = some p ∧ p.Matches (foldCase caseSensitive) url.toList

end TrackerGuard.Filter
