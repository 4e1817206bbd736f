import Mathlib
import TrackerGuard.Filter.Pattern
import TrackerGuard.Proofs.Filter.Fault

/-!
# The pattern that a filter is read as

`Filter.ofDomains` writes a filter as text and `Pattern.ofText?` reads text as a pattern.  This
module says which pattern the two give together: `hostPattern` of the domains, a sequence of ten
patterns in the order in which they stand in the text (`ofText?_ofDomains`).

The reader is followed one written form at a time.  Its state is the list of patterns read so far
in the innermost open group, backwards, and the lists of the groups around it; a lemma `read_…`
says what one form adds to them.  The lemmas on `escape`, `group` and the opening are put together
from these, and nothing after them looks at the reader again.

What a domain must fulfil is that none of its characters is refused by the grammar
(`accepts_iff`); an escaped character is read as itself whatever it means elsewhere.
-/

namespace TrackerGuard.Filter

namespace Pattern

/-! ## Sequences -/

/-- One pattern after another, from the first to the last. -/
def sequence (ps : List Pattern) : Pattern := ps.foldr .both .empty

@[simp] lemma sequence_nil : sequence [] = .empty := rfl

@[simp] lemma sequence_cons (p : Pattern) (ps : List Pattern) :
    sequence (p :: ps) = .both p (sequence ps) := rfl

/-- The reader collects backwards. -/
lemma chain_eq_sequence (items : List Pattern) : chain items = sequence items.reverse := by
  simp [chain, sequence, List.foldr_reverse]

/-- A text that stands for itself. -/
def literal (cs : List Char) : Pattern := sequence (cs.map .char)

/-! ## One written form at a time -/

section Read

-- Every lemma here unfolds the reader.
attribute [local simp] read

variable {items : List Pattern} {outer : List (List Pattern)} {cs : List Char}

lemma read_ordinary {c : Char} (hs : isSpecial c = false) (hf : charFault? c 0 = none) :
    read .plain items outer (c :: cs) = read .plain (.char c :: items) outer cs := by
  simp only [isSpecial, Bool.or_eq_false_iff, beq_eq_false_iff_ne, ne_eq] at hs
  cases outer <;> simp [hf, hs]

lemma read_backslash {c : Char} :
    read .plain items outer ('\\' :: c :: cs) = read .plain (.char c :: items) outer cs := by
  cases outer <;> simp [charFault?]

lemma read_open :
    read .plain items outer ('(' :: cs) = read .plain [] (items :: outer) cs := by
  cases outer <;> simp [charFault?]

lemma read_close {around : List Pattern} :
    read .plain items (around :: outer) (')' :: cs) =
      read .plain (chain items :: around) outer cs := by
  simp [charFault?]

lemma read_question {p : Pattern} :
    read .plain (p :: items) outer ('?' :: cs) = read .plain (.optional p :: items) outer cs := by
  cases outer <;> simp [charFault?, postfixed]

lemma read_star {p : Pattern} :
    read .plain (p :: items) outer ('*' :: cs) = read .plain (.many p :: items) outer cs := by
  cases outer <;> simp [charFault?, postfixed]

lemma read_plus {p : Pattern} :
    read .plain (p :: items) outer ('+' :: cs) =
      read .plain (.both p (.many p) :: items) outer cs := by
  cases outer <;> simp [charFault?, postfixed]

lemma read_dot : read .plain items outer ('.' :: cs) = read .plain (.any :: items) outer cs := by
  cases outer <;> simp [charFault?]

lemma read_caret :
    read .plain items outer ('^' :: cs) = read .plain (.start :: items) outer cs := by
  cases outer <;> simp [charFault?]

/-- A single slash in brackets. -/
lemma read_slash :
    read .plain items outer ('[' :: '/' :: ']' :: cs) =
      read .plain (.oneOf ['/'] :: items) outer cs := by
  have hplain : isPlainInBrackets '/' := rfl
  cases outer <;> simp [charFault?, hplain]

lemma read_finish : read .plain items [] [] = some (chain items) := by simp

/-! ## Domains -/

/-- An escaped text is read as itself. -/
lemma read_escape {domain : List Char} (h : ∀ c ∈ domain, charFault? c 0 = none) :
    read .plain items outer (escape domain ++ cs) =
      read .plain ((domain.map .char).reverse ++ items) outer cs := by
  induction domain generalizing items with
  | nil => rfl
  | cons c domain ih =>
      have hrest := @ih (.char c :: items) fun d hd => h d (List.mem_cons_of_mem _ hd)
      have hone : read .plain items outer (escapeChar c ++ (escape domain ++ cs)) =
          read .plain (.char c :: items) outer (escape domain ++ cs) := by
        rw [escapeChar]
        split
        next => exact read_backslash
        next hs => exact read_ordinary (by simpa using hs) (h c (by simp))
      rw [escape_cons, List.append_assoc, hone, hrest]
      simp

/-- The group of a domain is read as a text that may be left out. -/
lemma read_group {domain : List Char} (h : ∀ c ∈ domain, charFault? c 0 = none) :
    read .plain items outer (group domain ++ cs) =
      read .plain (.optional (literal domain) :: items) outer cs := by
  have hread := @read_escape [] (items :: outer) (')' :: '?' :: cs) domain h
  rw [show group domain ++ cs = '(' :: (escape domain ++ ')' :: '?' :: cs) by simp [group],
    read_open, hread, read_close, read_question, chain_eq_sequence]
  simp [literal]

lemma read_groups {domains : List (List Char)}
    (h : ∀ domain ∈ domains, ∀ c ∈ domain, charFault? c 0 = none) :
    read .plain items outer (domains.flatMap group ++ cs) =
      read .plain ((domains.map (.optional ∘ literal)).reverse ++ items) outer cs := by
  induction domains generalizing items with
  | nil => rfl
  | cons domain domains ih =>
      rw [List.flatMap_cons, List.append_assoc, read_group (h domain (by simp)),
        ih fun d hd => h d (List.mem_cons_of_mem _ hd)]
      simp

end Read

/-! ## The whole filter -/

/-- What `(https?)?` is read as. -/
def httpPattern : Pattern :=
  .optional (sequence [.char 'h', .char 't', .char 't', .char 'p', .optional (.char 's')])

/-- What `(wss?)?` is read as. -/
def socketPattern : Pattern :=
  .optional (sequence [.char 'w', .char 's', .optional (.char 's')])

/-- What `(.+\.)?` is read as. -/
def subdomainPattern : Pattern :=
  .optional (sequence [.both .any (.many .any), .char '.'])

/-- What the groups of domains are read as. -/
def domainsPattern (domains : List (List Char)) : Pattern :=
  sequence (domains.map (.optional ∘ literal))

/-- The pattern of the filter of some domains. -/
def hostPattern (domains : List (List Char)) : Pattern :=
  sequence [.start, httpPattern, socketPattern, .char ':', .oneOf ['/'], .oneOf ['/'],
    subdomainPattern, domainsPattern domains, .oneOf ['/'], .many .any]

/-- After the opening the reader stands in the group of the domains. -/
lemma read_opening {cs : List Char} :
    read .plain [] [] (opening ++ cs) =
      read .plain [] [[subdomainPattern, .oneOf ['/'], .oneOf ['/'], .char ':', socketPattern,
        httpPattern, .start]] cs := by
  have letter (c : Char) (h : isSpecial c = false ∧ charFault? c 0 = none)
      {items : List Pattern} {outer : List (List Pattern)} {cs : List Char} :
      read .plain items outer (c :: cs) = read .plain (.char c :: items) outer cs :=
    read_ordinary h.1 h.2
  rw [opening_eq]
  simp only [List.cons_append, List.nil_append, read_caret, read_open, read_close, read_question,
    read_plus, read_dot, read_backslash, read_slash, letter 'h' (by decide),
    letter 't' (by decide), letter 'p' (by decide), letter 's' (by decide),
    letter 'w' (by decide), letter ':' (by decide)]
  rfl

/-- The filter of domains that can be put into one is a pattern of the dialect. -/
theorem ofText?_ofDomains {domains : List String} (h : ∀ d ∈ domains, accepts d) :
    ofText? (ofDomains domains) = some (hostPattern (domains.map String.toList)) := by
  have hgroups : ∀ domain ∈ domains.map String.toList, ∀ c ∈ domain, charFault? c 0 = none := by
    intro domain hdomain
    obtain ⟨d, hd, rfl⟩ := List.mem_map.mp hdomain
    exact accepts_iff.mp (h d hd)
  rw [ofText?, toList_ofDomains, read_opening, read_groups hgroups, closing_eq, read_close, read_slash,
    read_dot, read_star, read_finish, chain_eq_sequence, chain_eq_sequence]
  simp [hostPattern, domainsPattern]

end Pattern

end TrackerGuard.Filter
