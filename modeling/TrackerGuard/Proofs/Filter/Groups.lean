import Mathlib
import TrackerGuard.Filter.Groups
import TrackerGuard.Proofs.Filter.Fault

/-!
# A filter tells its domains

From the text of a filter its domains can be read off again, in their order and one by one, whatever
they are made of: parentheses, question marks and backslashes may stand in a domain, and the domain
may be empty.  Escaping is what makes it so.  In an escaped text every parenthesis and every
backslash has a backslash in front of it, so that a scan which counts open parentheses comes out of
the text as deep as it went in (`topGroupsFrom_escape`), and the first parenthesis without one
closes the group.

So `domains?` undoes `ofDomains`, and lists of domains that differ have filters that differ
(`ofDomains_uniquely_readable`).
-/

namespace TrackerGuard.Filter

variable {depth : Nat} {out cs domain : List Char} {c : Char}

/-! ## Taking escapes away -/

lemma unescape_escapeChar : unescape (escapeChar c ++ cs) = c :: unescape cs := by
  rw [escapeChar]
  split
  next => rfl
  next hplain =>
    have hne : c ≠ '\\' := by
      rintro rfl
      exact hplain rfl
    rw [List.singleton_append, unescape]
    rintro d ds rfl
    exact absurd rfl hne

/-- Without its escapes an escaped text is the text. -/
lemma unescape_escape (cs : List Char) : unescape (escape cs) = cs := by
  induction cs with
  | nil => rfl
  | cons c cs ih => rw [escape_cons, unescape_escapeChar, ih]

/-- The domain of a group is the one it was made of. -/
lemma domainOf_group (domain : String) : domainOf (group domain.toList) = domain := by
  have hlength : (group domain.toList).length - 3 = (escape domain.toList).length := by
    simp [group]
  have hinside : (group domain.toList).drop 1 = escape domain.toList ++ [')', '?'] := rfl
  rw [domainOf, hlength, hinside, List.take_left, unescape_escape, String.ofList_toList]

/-! ## Scanning -/

section Scan

-- Every lemma here unfolds the scan at one character.
attribute [local simp] topGroupsFrom

lemma topGroupsFrom_backslash :
    topGroupsFrom false (depth + 1) out ('\\' :: c :: cs) =
      topGroupsFrom false (depth + 1) (c :: '\\' :: out) cs := by
  simp

lemma topGroupsFrom_ordinary (h : isSpecial c = false) :
    topGroupsFrom false (depth + 1) out (c :: cs) =
      topGroupsFrom false (depth + 1) (c :: out) cs := by
  simp only [isSpecial, Bool.or_eq_false_iff, beq_eq_false_iff_ne, ne_eq] at h
  simp [h]

lemma topGroupsFrom_open :
    topGroupsFrom false depth out ('(' :: cs) =
      topGroupsFrom false (depth + 1) ('(' :: out) cs := by
  simp

lemma topGroupsFrom_close :
    topGroupsFrom false (depth + 1) out (')' :: cs) = topGroupsFrom false depth (')' :: out) cs := by
  simp

lemma topGroupsFrom_question :
    topGroupsFrom false 0 (c :: out) ('?' :: cs) =
      (topGroupsFrom false 0 [] cs).map fun (groups, rest) =>
        (('?' :: c :: out).reverse :: groups, rest) := by
  simp

lemma topGroupsFrom_end : topGroupsFrom false 0 [] (')' :: cs) = some ([], ')' :: cs) := by
  simp

end Scan

lemma topGroupsFrom_escapeChar :
    topGroupsFrom false (depth + 1) out (escapeChar c ++ cs) =
      topGroupsFrom false (depth + 1) ((escapeChar c).reverse ++ out) cs := by
  rw [escapeChar]
  split
  next => exact topGroupsFrom_backslash
  next hplain => exact topGroupsFrom_ordinary (by simpa using hplain)

/-- An escaped text is passed without a change of depth. -/
lemma topGroupsFrom_escape :
    topGroupsFrom false (depth + 1) out (escape domain ++ cs) =
      topGroupsFrom false (depth + 1) ((escape domain).reverse ++ out) cs := by
  induction domain generalizing out with
  | nil => rfl
  | cons c domain ih =>
      rw [escape_cons, List.append_assoc, topGroupsFrom_escapeChar, ih, List.reverse_append,
        List.append_assoc]

/-- The group of a domain is one group. -/
lemma topGroupsFrom_group :
    topGroupsFrom false 0 [] (group domain ++ cs) =
      (topGroupsFrom false 0 [] cs).map fun (groups, rest) => (group domain :: groups, rest) := by
  have htext : group domain ++ cs = '(' :: (escape domain ++ ')' :: '?' :: cs) := by simp [group]
  have hgroup : ('?' :: ')' :: ((escape domain).reverse ++ ['('])).reverse = group domain := by
    simp [group]
  rw [htext, topGroupsFrom_open, topGroupsFrom_escape, topGroupsFrom_close, topGroupsFrom_question,
    hgroup]

lemma topGroupsFrom_groups {domains : List (List Char)} :
    topGroupsFrom false 0 [] (domains.flatMap group ++ ')' :: cs) =
      some (domains.map group, ')' :: cs) := by
  induction domains with
  | nil => exact topGroupsFrom_end
  | cons domain domains ih =>
      rw [List.flatMap_cons, List.append_assoc, topGroupsFrom_group, ih]
      rfl

/-! ## Reading a filter -/

/-- The outermost groups of a filter are those of its domains. -/
lemma topGroups?_ofDomains (domains : List String) :
    topGroups? (ofDomains domains) = some (domains.map fun d => group d.toList) := by
  have hopening : opening.isPrefixOf (ofDomains domains).toList := by
    rw [toList_ofDomains, List.isPrefixOf_iff_prefix]
    exact List.prefix_append _ _
  rw [topGroups?]
  simp only [hopening, if_true]
  rw [toList_ofDomains, List.drop_left, closing_eq, topGroupsFrom_groups]
  simp [Function.comp_def]

/-- Reading a filter gives back the domains that it was made of. -/
lemma domains?_ofDomains (domains : List String) : domains? (ofDomains domains) = some domains := by
  rw [domains?, topGroups?_ofDomains, Option.map_some, List.map_map]
  simp [Function.comp_def, domainOf_group]

lemma ofDomains_injective : Function.Injective ofDomains := by
  intro domains others h
  have hread := domains?_ofDomains domains
  rw [h, domains?_ofDomains] at hread
  exact (Option.some.inj hread).symm

lemma group_toList_injective : Function.Injective fun d : String => group d.toList := by
  intro domain other h
  rw [← domainOf_group domain, ← domainOf_group other]
  exact congrArg domainOf h

/-- **Filters are uniquely readable.**  A filter is read as the domains that it was made of, so two
lists of domains do not share a filter, nor do two ways to put domains into groups share their
filters; and the group of a domain is one of the outermost groups exactly when the domain is in the
list. -/
theorem ofDomains_uniquely_readable :
    (∀ domains, domains? (ofDomains domains) = some domains) ∧
      Function.Injective ofDomains ∧ Function.Injective (List.map ofDomains) ∧
      ∀ domains, ∃ groups, topGroups? (ofDomains domains) = some groups ∧
        ∀ domain : String, group domain.toList ∈ groups ↔ domain ∈ domains := by
  refine ⟨domains?_ofDomains, ofDomains_injective, ofDomains_injective.list_map,
    fun domains => ⟨_, topGroups?_ofDomains domains, fun domain => ?_⟩⟩
  exact List.mem_map_of_injective group_toList_injective

/-- Domains that look like the end of a group and the beginning of the next one are not taken for
one. -/
example : ofDomains ["a)?(b", ""] ≠ ofDomains ["a", "b", ""] := by decide

end TrackerGuard.Filter
