import Mathlib
import TrackerGuard.Proofs.Filter.Reach

/-!
# What a filter covers

Whatever else a filter matches, it matches what it is made for: the URLs with a web scheme whose
host is one of its domains or lies under one.  The other domains of the filter do not get in the
way, as each of their groups may be left out, and neither do the characters of the domain.  These
need not be those of a host name: the grammar refuses a few characters and lets all others pass,
those with a meaning in regular expressions among them.  Escaped, a domain is read as a pattern that
spans the domain and nothing else (`covers_listed_domains`).

Nothing is asked of what follows the slash behind the domain, and of what stands in front of the
domain only that no line ends there.
-/

namespace TrackerGuard.Filter

open Pattern

variable {domains : List String} {domain scheme front rest : String} {caseSensitive : Bool}

/-- An escaped domain is read as a text that stands for itself. -/
lemma ofText?_escaped (h : accepts domain) :
    ofText? (escaped domain) = some (literal domain.toList) := by
  have hread := @read_escape [] [] [] domain.toList (accepts_iff.mp h)
  rw [List.append_nil, List.append_nil, read_finish, chain_eq_sequence,
    List.reverse_reverse] at hread
  rw [ofText?, escaped, String.toList_ofList, hread]
  rfl

/-- Where case counts, the pattern of an escaped domain spans the domain alone. -/
lemma spans_literal_true_iff {cs before part after : List Char} :
    Spans (foldCase true) (literal cs) before part after ↔ part = cs := by
  rw [spans_literal_iff, foldCase_true, List.map_id, List.map_id]

/-- **A filter covers its domains.**  It matches every URL with a web scheme in which a domain of
the list is followed by a slash and preceded by nothing or by a text up to a full stop, and a domain
in it is read as itself. -/
theorem covers_listed_domains (hdomains : ∀ d ∈ domains, accepts d) (hmem : domain ∈ domains)
    (hscheme : scheme ∈ ["http", "https", "ws", "wss"]) (hfront : IsFront front.toList) :
    Matches (ofDomains domains) caseSensitive
        (scheme ++ "://" ++ front ++ domain ++ "/" ++ rest) ∧
      ∃ p, ofText? (escaped domain) = some p ∧ ∀ before part after,
        p.Spans (foldCase true) before part after ↔ part = domain.toList := by
  constructor
  · have hurl : scheme ++ "://" ++ front ++ domain ++ "/" ++ rest =
        scheme ++ "://" ++ (front ++ domain ++ "/" ++ rest) := by
      simp only [String.append_assoc]
    rw [hurl, matches_ofScheme_iff hdomains (isScheme_of_mem hscheme)]
    exact ⟨front.toList, domain.toList, rest.toList, by simp, hfront,
      spellsDomains_of_like hmem rfl⟩
  · exact ⟨_, ofText?_escaped (hdomains domain hmem), fun _ _ _ => spans_literal_true_iff⟩

/-- A domain of special characters behind another one, a front that is no part of a host name and a
rest of two lines. -/
theorem covers_special_characters :
    (∀ d ∈ ["a.com", "x+(y)?*[z]^$.net\\"], accepts d) ∧
      "x+(y)?*[z]^$.net\\" ∈ ["a.com", "x+(y)?*[z]^$.net\\"] ∧
      "wss" ∈ ["http", "https", "ws", "wss"] ∧ IsFront "über/uns.".toList ∧
      Matches (ofDomains ["a.com", "x+(y)?*[z]^$.net\\"]) false
        ("wss" ++ "://" ++ "über/uns." ++ "x+(y)?*[z]^$.net\\" ++ "/" ++ "a\nb") ∧
      ∃ p, ofText? (escaped "x+(y)?*[z]^$.net\\") = some p ∧ ∀ before part after,
        p.Spans (foldCase true) before part after ↔ part = "x+(y)?*[z]^$.net\\".toList := by
  have hfront : IsFront "über/uns.".toList :=
    .inr ⟨"über/uns".toList, by decide, by decide, by decide⟩
  exact ⟨by decide, by decide, by decide, hfront,
    covers_listed_domains (by decide) (by decide) (by decide) hfront⟩

end TrackerGuard.Filter
