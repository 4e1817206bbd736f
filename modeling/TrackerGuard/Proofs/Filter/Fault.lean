import Mathlib
import TrackerGuard.Filter.Basic
import TrackerGuard.Proofs.Text.Ends

/-!
# Faults and escapes

A fault is reported for the first character that a filter must not have.  Where a text begins has a
part in the position that is reported and in nothing else, so texts can be looked at piece by piece:
a piece without a fault moves the faults behind it by its bytes (`faultFrom?_append`).

Escaping puts backslashes into a text, and a backslash is no fault.  So a domain has a fault as it
is exactly when it has one escaped, and it is the same one, further on by the backslashes in front
of its character (`escaping_keeps_faults`).  This is why the runtime index, which looks at domains as
they are, and the compiler, which looks at them escaped, take the same ones.  What else stands in a
filter has no fault either.
-/

namespace TrackerGuard.Filter

open Text

variable {c : Char} {cs front back : List Char} {n : Nat} {fault : Fault} {domain : String}

/-! ## One character -/

/-- The character that a fault is about. -/
def Fault.char : Fault → Char
  | .alternation _ => '|'
  | .repetition c _ => c
  | .nonAscii c _ => c

/-- The byte at which a fault is reported. -/
def Fault.position : Fault → Nat
  | .alternation n => n
  | .repetition _ n => n
  | .nonAscii _ n => n

/-- The same fault some bytes further on. -/
def Fault.shift (bytes : Nat) : Fault → Fault
  | .alternation n => .alternation (n + bytes)
  | .repetition c n => .repetition c (n + bytes)
  | .nonAscii c n => .nonAscii c (n + bytes)

lemma charFault?_add (c : Char) (n bytes : Nat) :
    charFault? c (n + bytes) = (charFault? c n).map (Fault.shift bytes) := by
  simp only [charFault?]
  split_ifs <;> rfl

/-- Whether a character has a fault does not depend on where it stands. -/
lemma charFault?_eq_none_iff : charFault? c n = none ↔ charFault? c 0 = none := by
  simp only [charFault?]
  split_ifs <;> simp

lemma char_and_position_of_charFault? (h : charFault? c n = some fault) :
    fault.char = c ∧ fault.position = n := by
  simp only [charFault?] at h
  split_ifs at h with hbar <;> cases h
  · exact ⟨hbar.symm, rfl⟩
  · exact ⟨rfl, rfl⟩
  · exact ⟨rfl, rfl⟩

/-! ## The first fault of a text -/

/-- A text has no fault when none of its characters has one, wherever it stands. -/
lemma faultFrom?_eq_none_iff : faultFrom? n cs = none ↔ ∀ c ∈ cs, charFault? c 0 = none := by
  induction cs generalizing n with
  | nil => simp [faultFrom?]
  | cons c cs ih =>
      rw [faultFrom?, List.forall_mem_cons, ← charFault?_eq_none_iff (n := n)]
      cases charFault? c n with
      | none => simpa using ih
      | some fault => simp

/-- A piece without a fault moves the faults behind it. -/
lemma faultFrom?_append (h : ∀ c ∈ front, charFault? c 0 = none) :
    faultFrom? n (front ++ back) = faultFrom? (n + utf8Length front) back := by
  induction front generalizing n with
  | nil => rfl
  | cons c front ih =>
      obtain ⟨hc, hfront⟩ := List.forall_mem_cons.mp h
      rw [List.cons_append, faultFrom?, charFault?_eq_none_iff.mpr hc, utf8Length_cons,
        ← Nat.add_assoc]
      exact ih hfront

lemma faultFrom?_cons (h : charFault? c n = some fault) : faultFrom? n (c :: cs) = some fault := by
  rw [faultFrom?, h]

/-- The fault of a text is that of the first character with one. -/
lemma exists_of_faultFrom?_eq_some (h : faultFrom? n cs = some fault) :
    ∃ front c back, cs = front ++ c :: back ∧ (∀ d ∈ front, charFault? d 0 = none) ∧
      charFault? c (n + utf8Length front) = some fault := by
  induction cs generalizing n with
  | nil => cases h
  | cons c cs ih =>
      cases hc : charFault? c n with
      | some first =>
          rw [faultFrom?_cons hc] at h
          exact ⟨[], c, cs, rfl, List.forall_mem_nil _, hc.trans h⟩
      | none =>
          rw [faultFrom?, hc] at h
          obtain ⟨front, d, back, rfl, hfront, hd⟩ := ih h
          refine ⟨c :: front, d, back, rfl, ?_, ?_⟩
          · exact List.forall_mem_cons.mpr ⟨charFault?_eq_none_iff.mp hc, hfront⟩
          · rwa [utf8Length_cons, ← Nat.add_assoc]

/-! ## Escapes -/

lemma escape_cons : escape (c :: cs) = escapeChar c ++ escape cs := List.flatMap_cons

lemma escape_append : escape (front ++ back) = escape front ++ escape back :=
  List.flatMap_append

lemma charFault?_backslash : charFault? '\\' 0 = none := rfl

/-- The backslashes that are added have no fault. -/
lemma forall_mem_escape_iff :
    (∀ c ∈ escape cs, charFault? c 0 = none) ↔ ∀ c ∈ cs, charFault? c 0 = none := by
  have hone (c : Char) : (∀ d ∈ escapeChar c, charFault? d 0 = none) ↔ charFault? c 0 = none := by
    rw [escapeChar]
    split
    · rw [List.forall_mem_cons, List.forall_mem_singleton]
      exact and_iff_right charFault?_backslash
    · exact List.forall_mem_singleton
  rw [escape, List.forall_mem_flatMap]
  simp only [hone]

/-- A domain can be put into a filter when none of its characters has a fault. -/
lemma accepts_iff : accepts domain ↔ ∀ c ∈ domain.toList, charFault? c 0 = none := by
  rw [accepts, domainFault?, fault?, escaped, String.toList_ofList, Option.isNone_iff_eq_none,
    faultFrom?_eq_none_iff, forall_mem_escape_iff]

/-- A domain can be put into a filter as it is when it can be put there escaped. -/
lemma fault?_eq_none_iff : fault? domain = none ↔ accepts domain := by
  rw [fault?, faultFrom?_eq_none_iff, accepts_iff]

/-- Each escape takes one byte more. -/
lemma utf8Length_escape (cs : List Char) :
    utf8Length (escape cs) = utf8Length cs + cs.countP isSpecial := by
  induction cs with
  | nil => rfl
  | cons c cs ih =>
      have hone : utf8Length (escapeChar c) = c.utf8Size + if isSpecial c then 1 else 0 := by
        have hbackslash : '\\'.utf8Size = 1 := rfl
        have hnil : utf8Length [] = 0 := rfl
        rw [escapeChar]
        split
        · rw [utf8Length_cons, utf8Length_cons, hbackslash, hnil, Nat.add_comm]
        · rw [utf8Length_cons, hnil]
      rw [escape_cons, utf8Length_append, hone, ih, utf8Length_cons, List.countP_cons]
      omega

/-- The first fault of a text is, escaped, the same one further on. -/
lemma faultFrom?_escape (hfront : ∀ d ∈ front, charFault? d 0 = none)
    (hc : charFault? c (utf8Length front) = some fault) :
    faultFrom? 0 (escape (front ++ c :: back)) =
      some (fault.shift ((front ++ [c]).countP isSpecial)) := by
  have hclean : ∀ d ∈ escape front, charFault? d 0 = none := forall_mem_escape_iff.mpr hfront
  have hmoved (bytes : Nat) :
      charFault? c (utf8Length front + bytes) = some (fault.shift bytes) := by
    rw [charFault?_add, hc, Option.map_some]
  rw [escape_append, escape_cons, faultFrom?_append hclean, utf8Length_escape, Nat.zero_add,
    List.countP_append, List.countP_singleton, escapeChar]
  -- A character with a fault may be escaped itself; its backslash then stands in front of it, too.
  split
  next =>
    have hbackslash : ∀ d ∈ ['\\'], charFault? d 0 = none :=
      List.forall_mem_singleton.mpr charFault?_backslash
    have hone : utf8Length ['\\'] = 1 := rfl
    rw [← List.singleton_append, List.append_assoc, faultFrom?_append hbackslash, hone,
      Nat.add_assoc]
    exact faultFrom?_cons (hmoved _)
  next => exact faultFrom?_cons (hmoved _)

/-! ## Filters -/

lemma toList_ofDomains (domains : List String) :
    (ofDomains domains).toList =
      opening ++ ((domains.map String.toList).flatMap group ++ closing) := by
  simp [ofDomains, List.flatMap_map]

lemma opening_eq : opening =
    ['^', '(', 'h', 't', 't', 'p', 's', '?', ')', '?', '(', 'w', 's', 's', '?', ')', '?', ':',
      '[', '/', ']', '[', '/', ']', '(', '.', '+', '\\', '.', ')', '?', '('] := rfl

lemma closing_eq : closing = [')', '[', '/', ']', '.', '*'] := rfl

/-- A group has the faults of its domain. -/
lemma forall_mem_group_iff :
    (∀ c ∈ group cs, charFault? c 0 = none) ↔ ∀ c ∈ cs, charFault? c 0 = none := by
  have hparentheses : ∀ c ∈ [')', '?'], charFault? c 0 = none :=
    List.forall_mem_cons.mpr ⟨rfl, List.forall_mem_singleton.mpr rfl⟩
  rw [group, List.cons_append, List.forall_mem_cons, List.forall_mem_append,
    forall_mem_escape_iff]
  exact ⟨fun h => h.2.1, fun h => ⟨rfl, h, hparentheses⟩⟩

/-- A filter has no fault when none of its domains has one. -/
lemma fault?_ofDomains_eq_none_iff {domains : List String} :
    fault? (ofDomains domains) = none ↔ ∀ d ∈ domains, fault? d = none := by
  have hopening : opening.all fun c => (charFault? c 0).isNone := rfl
  have hclosing : closing.all fun c => (charFault? c 0).isNone := rfl
  simp only [List.all_eq_true, Option.isNone_iff_eq_none] at hopening hclosing
  have hgroup (d : String) :
      fault? d = none ↔ ∀ c ∈ group d.toList, charFault? c 0 = none := by
    rw [fault?, faultFrom?_eq_none_iff, forall_mem_group_iff]
  rw [fault?, faultFrom?_eq_none_iff, toList_ofDomains, List.forall_mem_append,
    List.forall_mem_append, List.forall_mem_flatMap, List.forall_mem_map]
  simp only [hgroup]
  exact ⟨fun h => h.2.1, fun h => ⟨hopening, h, hclosing⟩⟩

/-- **Escaping keeps faults.**  A domain has a fault escaped exactly when it has one as it is.  Of
the same kind and about the same character, it is reported further on by as many bytes as characters
up to and including that one are escaped.  A filter has a fault exactly when one of its domains
has. -/
theorem escaping_keeps_faults (domain : String) (domains : List String) :
    (domainFault? domain = none ↔ fault? domain = none) ∧
      (∀ fault, fault? domain = some fault → ∃ front back,
        domain.toList = front ++ fault.char :: back ∧ fault.position = utf8Length front ∧
          domainFault? domain =
            some (fault.shift ((front ++ [fault.char]).countP isSpecial))) ∧
      (fault? (ofDomains domains) = none ↔ ∀ d ∈ domains, fault? d = none) := by
  refine ⟨?_, fun fault hfault => ?_, fault?_ofDomains_eq_none_iff⟩
  · rw [fault?_eq_none_iff, accepts, Option.isNone_iff_eq_none]
  · obtain ⟨front, c, back, hdomain, hfront, hc⟩ := exists_of_faultFrom?_eq_some hfault
    rw [Nat.zero_add] at hc
    obtain ⟨rfl, hposition⟩ := char_and_position_of_charFault? hc
    refine ⟨front, back, hdomain, hposition, ?_⟩
    rw [domainFault?, fault?, escaped, String.toList_ofList, hdomain]
    exact faultFrom?_escape hfront hc

/-- The fault of this domain is reported two bytes further on, for the full stop and for the bar
itself. -/
example : fault? "a.b|c" = some (.alternation 3) ∧ domainFault? "a.b|c" = some (.alternation 5) := by
  decide

end TrackerGuard.Filter
