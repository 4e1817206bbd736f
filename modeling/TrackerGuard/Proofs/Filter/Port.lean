import Mathlib
import TrackerGuard.Proofs.Filter.Reach
import TrackerGuard.Proofs.Host.Normal
import TrackerGuard.Proofs.Url.Host

/-!
# Filters, ports and capital letters

Rules compare without regard to case, so a host in capital letters is matched by its domain in small
ones.  The URLs are those of the web in general, with a port that may be missing.

A filter wants the slash right behind the domains.  Where the URL has a port, the host is not
followed by one, and the filter matches only if domains are spelled in the rest of the URL, because
the pattern `(.+\.)?` then runs over the host and the port: `matches_url_with_port_iff`.
-/

namespace TrackerGuard.Filter

variable {domains : List String} {domain host port rest scheme : String}
  {front names : List Char}

lemma foldCase_false : foldCase false = Char.toLower := rfl

/-- A scheme of the web is one that filters let through when case does not count. -/
lemma isScheme_of_isWebScheme (h : Url.IsWebScheme scheme) : IsScheme false scheme.toList := by
  have hwords : ∀ word ∈ ["http", "https", "ws", "wss"].map String.toList,
      ∃ http ∈ Pattern.httpWords, ∃ socket ∈ Pattern.socketWords,
        word = (http ++ socket).map Char.toLower := by
    decide
  exact hwords _ h

/-- Only letters, digits, hyphens and full stops spell names. -/
lemma SpellsDomains.notMem {caseSensitive : Bool} {c : Char}
    (h : SpellsDomains caseSensitive domains names) (hdomains : ∀ d ∈ domains, Host.IsName d)
    (hdot : c ≠ '.') (hlabel : Host.isLabelChar c = false) : c ∉ names := by
  obtain ⟨picked, hsub, hnames⟩ := h
  have halpha : c.isAlpha = false := by
    simp only [Host.isLabelChar, Char.isAlphanum, Bool.or_eq_false_iff] at hlabel
    exact hlabel.1.1
  intro hc
  have hmem := List.mem_map_of_mem (f := foldCase caseSensitive) hc
  rw [hnames] at hmem
  obtain ⟨d, hd, heq⟩ := List.mem_map.mp hmem
  obtain rfl := eq_of_foldCase_eq halpha heq
  obtain ⟨domain, hpicked, hd⟩ := List.mem_flatMap.mp hd
  exact (hdomains domain (hsub.subset hpicked)).notMem hdot hlabel hd

/-- A host whose normal form lies under a domain is a front and the domain, in any case. -/
lemma exists_front_of_within_normalize (hhost : Host.IsName host)
    (hwithin : Host.Within (Host.normalize host) domain) :
    ∃ front names, IsFront front ∧ host.toList = front ++ names ∧
      names.map Char.toLower = domain.toList := by
  rcases hwithin with heq | ⟨inner, hinner⟩
  · refine ⟨[], host.toList, .inl rfl, rfl, ?_⟩
    rw [← heq, hhost.toList_normalize]
    rfl
  · rw [hhost.toList_normalize, Text.asciiLower] at hinner
    obtain ⟨inner', behind, hcut, -, hbehind⟩ := List.map_eq_append_iff.mp hinner
    obtain ⟨c, names, rfl, hc, hnames⟩ := List.map_eq_cons_iff.mp hbehind
    obtain rfl := Host.toLower_eq_dot_iff.mp hc
    have hline := hhost.notMem (c := '\n') (by decide) rfl
    rw [hcut, List.mem_append, not_or] at hline
    exact ⟨inner' ++ ['.'], names, .inr ⟨inner', rfl, hhost.front_ne_nil hcut, hline.1⟩,
      by simp [hcut], hnames⟩

/-- Domains in small letters are spelled by a text that is one of them in any case. -/
lemma spellsDomains_of_mem (hdomain : Host.IsLowerName domain) (hmem : domain ∈ domains)
    (hnames : names.map Char.toLower = domain.toList) : SpellsDomains false domains names := by
  have hlower : domain.toList.map Char.toLower = domain.toList :=
    Text.asciiLower_eq_self_iff.mpr hdomain.isLower
  exact spellsDomains_of_like hmem (by rw [foldCase_false, hnames, hlower])

/-- Behind a full stop in the rest of a URL stand some of the domains in any case, or none, and a
slash. -/
def RestSpells (domains : List String) (rest : String) : Prop :=
  ∃ front names back, rest.toList = front ++ '.' :: (names ++ '/' :: back) ∧
    SpellsDomains false domains names

/-- A port cannot stand between the domains and the slash. -/
lemma port_eq_empty_of_front (hport : Url.IsPort port) (hfront : IsFront front)
    (hcolon : ':' ∉ names) (h : front ++ names = (host ++ port).toList) : port = "" := by
  rcases hport with rfl | ⟨digits, hdigits, hall⟩
  · rfl
  exfalso
  rw [String.toList_append, hdigits] at h
  have hdot : '.' ∉ ':' :: digits := by
    intro hmem
    rcases List.mem_cons.mp hmem with heq | hmem
    · exact absurd heq (by decide)
    · exact absurd (hall '.' hmem) (by decide)
  rcases List.append_eq_append_iff.mp h with ⟨m, -, hm⟩ | ⟨m, hm, hdigits⟩
  · exact hcolon (by simp [hm])
  · -- The front ends with a full stop, and that would have to stand in the port.
    rcases hfront with rfl | ⟨inner, rfl, -, -⟩
    · obtain ⟨-, rfl⟩ := List.append_eq_nil_iff.mp hm.symm
      rw [List.nil_append] at hdigits
      exact hcolon (by simp [← hdigits])
    · rcases m.eq_nil_or_concat' with rfl | ⟨m, c, rfl⟩
      · rw [List.nil_append] at hdigits
        exact hcolon (by simp [← hdigits])
      · rw [← List.append_assoc] at hm
        obtain rfl : '.' = c := by simpa using (List.append_inj' hm rfl).2
        exact hdot (by simp [hdigits])

/-- **What a filter matches when case does not count**: the URLs without a port whose host ends with
some of the domains, and those in the rest of which domains are spelled. -/
theorem matches_url_with_port_iff (hdomains : ∀ d ∈ domains, Host.IsName d)
    (hscheme : Url.IsWebScheme scheme) (hhost : Host.IsName host) (hport : Url.IsPort port)
    (hrest : '\n' ∉ rest.toList) :
    Matches (ofDomains domains) false (scheme ++ "://" ++ host ++ port ++ "/" ++ rest) ↔
      (port = "" ∧ ∃ front names, IsFront front ∧ host.toList = front ++ names ∧
        SpellsDomains false domains names) ∨ RestSpells domains rest := by
  have hurl : scheme ++ "://" ++ host ++ port ++ "/" ++ rest =
      scheme ++ "://" ++ (host ++ port ++ "/" ++ rest) := by
    simp only [String.append_assoc]
  have hbehind : (host ++ port ++ "/" ++ rest).toList =
      (host ++ port).toList ++ '/' :: rest.toList := by
    simp
  have hslash : '/' ∉ (host ++ port).toList := by
    rw [String.toList_append, List.mem_append, not_or]
    exact ⟨hhost.notMem (by decide) rfl, hport.notMem (by decide) rfl⟩
  rw [hurl, matches_ofScheme_iff (fun d hd => accepts_of_isName (hdomains d hd))
    (isScheme_of_isWebScheme hscheme), hbehind]
  constructor
  · rintro ⟨front, names, back, htext, hfront, hnames⟩
    rw [← List.append_assoc] at htext
    rcases Text.cut_eq_or_later hslash htext with ⟨hat, -⟩ | ⟨m, hlater, hback⟩
    · have hcolon : ':' ∉ names := hnames.notMem hdomains (by decide) rfl
      have hempty : port = "" := port_eq_empty_of_front hport hfront hcolon hat
      rw [hempty, String.append_empty] at hat
      exact .inl ⟨hempty, front, names, hfront, hat.symm, hnames⟩
    · have hnotMem : '/' ∉ names := hnames.notMem hdomains (by decide) rfl
      obtain ⟨inner, rfl⟩ := rest_eq_of_front hfront hnotMem hlater
      exact .inr ⟨inner, names, back, by simp [hback], hnames⟩
  · rintro (⟨rfl, front, names, hfront, hat, hnames⟩ | ⟨inner, names, back, hspelled, hnames⟩)
    · refine ⟨front, names, rest.toList, ?_, hfront, hnames⟩
      rw [String.append_empty, hat, List.append_assoc]
    · refine ⟨(host ++ port).toList ++ '/' :: (inner ++ ['.']), names, back, by simp [hspelled],
        .inr ⟨(host ++ port).toList ++ '/' :: inner, by simp, by simp, ?_⟩, hnames⟩
      have hline : '\n' ∉ host.toList ∧ '\n' ∉ port.toList :=
        ⟨hhost.notMem (by decide) rfl, hport.notMem (by decide) rfl⟩
      have hinner : '\n' ∉ inner := fun hmem => hrest (by simp [hspelled, hmem])
      simp [hline, hinner]

end TrackerGuard.Filter
