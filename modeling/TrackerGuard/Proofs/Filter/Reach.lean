import Mathlib
import TrackerGuard.Proofs.Filter.Meaning
import TrackerGuard.Proofs.Host.Name
import TrackerGuard.Proofs.Text.Ends

/-!
# How far a filter of domains reaches

A filter is meant for the URLs whose host is one of its domains or lies under one.  It matches all
of these, but not these alone.  `matches_iff_within_or_overreaches` says which others: the pattern
`(.+\.)?` may run past the host, so that the domains are found in the path (`RestNames`), and
several groups may match one behind the other, so that the host is a chain of domains without full
stops between them (`IsFused`).  There is no third way.

The URLs are those with a web scheme, a host made of labels and a slash behind it.  Where the slash
that follows the domains is the one behind the host, the front and the domains make up the host;
where it is a later one, the front has swallowed the host, and what remains of it ends with a full
stop in the rest of the URL.
-/

namespace TrackerGuard.Filter

/-! ## Schemes, fronts and domains -/

lemma foldCase_true : foldCase true = id := rfl

lemma isScheme_of_mem {caseSensitive : Bool} {scheme : String}
    (h : scheme ∈ ["http", "https", "ws", "wss"]) : IsScheme caseSensitive scheme.toList := by
  simp only [List.mem_cons, List.not_mem_nil, or_false] at h
  rcases h with rfl | rfl | rfl | rfl
  · exact ⟨"http".toList, by decide, [], by decide, rfl⟩
  · exact ⟨"https".toList, by decide, [], by decide, rfl⟩
  · exact ⟨[], by decide, "ws".toList, by decide, rfl⟩
  · exact ⟨[], by decide, "wss".toList, by decide, rfl⟩

lemma IsScheme.colon_notMem {caseSensitive : Bool} {scheme : List Char}
    (h : IsScheme caseSensitive scheme) : ':' ∉ scheme := by
  obtain ⟨http, hhttp, socket, hsocket, hscheme⟩ := h
  have hwords : ∀ word ∈ Pattern.httpWords ++ Pattern.socketWords, ':' ∉ word := by decide
  intro hcolon
  have hmem := List.mem_map_of_mem (f := foldCase caseSensitive) hcolon
  rw [hscheme] at hmem
  obtain ⟨c, hc, heq⟩ := List.mem_map.mp hmem
  obtain rfl := eq_of_foldCase_eq (by decide) heq
  rcases List.mem_append.mp hc with hc | hc
  · exact hwords http (List.mem_append_left _ hhttp) hc
  · exact hwords socket (List.mem_append_right _ hsocket) hc

lemma charFault?_of_isLabelChar {c : Char} (h : Host.isLabelChar c) : charFault? c 0 = none := by
  have hne (d : Char) (hd : Host.isLabelChar d = false) : c ≠ d := by
    rintro rfl
    simp [hd] at h
  have hascii : c.toNat < 0x80 := by
    simp only [Host.isLabelChar, Char.isAlphanum, Char.isAlpha, Char.isUpper, Char.isLower,
      Char.isDigit, Bool.or_eq_true, Bool.and_eq_true, decide_eq_true_eq, beq_iff_eq,
      UInt32.le_iff_toNat_le] at h
    have hupper : 'Z'.val.toNat < 0x80 := by decide
    have hlower : 'z'.val.toNat < 0x80 := by decide
    have hdigit : '9'.val.toNat < 0x80 := by decide
    rcases h with ((⟨-, h⟩ | ⟨-, h⟩) | ⟨-, h⟩) | rfl
    · exact h.trans_lt hupper
    · exact h.trans_lt hlower
    · exact h.trans_lt hdigit
    · decide
  simp [charFault?, hne '|' rfl, hne '\x7b' rfl, hne '\x7d' rfl, hascii]

/-- A name can be put into a filter. -/
lemma accepts_of_isName {domain : String} (h : Host.IsName domain) : accepts domain := by
  refine accepts_iff.mpr fun c hc => ?_
  rcases h.eq_dot_or_isLabelChar hc with rfl | hlabel
  · rfl
  · exact charFault?_of_isLabelChar hlabel

/-- A front and something behind it, with a full stop between the two unless there is no front. -/
lemma within_iff_front {host domain : String} (hhost : Host.IsName host) :
    Host.Within host domain ↔ ∃ front, IsFront front ∧ host.toList = front ++ domain.toList := by
  constructor
  · rintro (rfl | ⟨inner, hinner⟩)
    · exact ⟨[], .inl rfl, rfl⟩
    · refine ⟨inner ++ ['.'], .inr ⟨inner, rfl, hhost.front_ne_nil hinner, ?_⟩, by simp [hinner]⟩
      have hline := hhost.notMem (c := '\n') (by decide) rfl
      rw [hinner, List.mem_append, not_or] at hline
      exact hline.1
  · rintro ⟨front, rfl | ⟨inner, rfl, -, -⟩, hfront⟩
    · exact .inl (String.toList_inj.mp hfront)
    · exact .inr ⟨inner, by simpa using hfront⟩

/-! ## What is matched -/

/-- Several of the domains stand one behind the other at the end of the host. -/
def IsFused (domains : List String) (host : String) : Prop :=
  ∃ picked : List String, picked.Sublist domains ∧ 2 ≤ picked.length ∧
    Host.Within host (String.join picked)

/-- Behind a full stop in the rest of a URL stand some of the domains, or none, and a slash. -/
def RestNames (domains : List String) (rest : String) : Prop :=
  ∃ picked : List String, picked.Sublist domains ∧ ∃ front back,
    rest.toList = front ++ '.' :: ((String.join picked).toList ++ '/' :: back)

section Url

variable {domains : List String} {scheme host rest : String}

/-- A filter matches a URL when, behind its scheme, a front and some of the domains are followed by
a slash. -/
lemma matches_ofScheme_iff {caseSensitive : Bool} {behind : String}
    (hdomains : ∀ d ∈ domains, accepts d) (hscheme : IsScheme caseSensitive scheme.toList) :
    Matches (ofDomains domains) caseSensitive (scheme ++ "://" ++ behind) ↔
      ∃ front names back, behind.toList = front ++ (names ++ '/' :: back) ∧ IsFront front ∧
        SpellsDomains caseSensitive domains names := by
  have htext : (scheme ++ "://" ++ behind).toList =
      scheme.toList ++ ':' :: '/' :: '/' :: behind.toList := by
    simp
  rw [matches_ofDomains_iff hdomains, htext]
  constructor
  · rintro ⟨word, front, names, back, hurl, hword, hfront, hnames⟩
    rcases Text.cut_eq_or_later hscheme.colon_notMem hurl with ⟨-, hbehind⟩ | ⟨m, rfl, -⟩
    · simp only [List.cons.injEq, true_and] at hbehind
      exact ⟨front, names, back, hbehind.symm, hfront, hnames⟩
    · exact absurd (by simp) hword.colon_notMem
  · rintro ⟨front, names, back, hbehind, hfront, hnames⟩
    exact ⟨scheme.toList, front, names, back, by rw [hbehind], hscheme, hfront, hnames⟩

/-- A filter that distinguishes case matches a URL with a web scheme when, behind the scheme, a
front and some of the domains are followed by a slash. -/
lemma matches_url_iff (hdomains : ∀ d ∈ domains, Host.IsName d)
    (hscheme : scheme ∈ ["http", "https", "ws", "wss"]) :
    Matches (ofDomains domains) true (scheme ++ "://" ++ host ++ "/" ++ rest) ↔
      ∃ front, IsFront front ∧ ∃ picked : List String, picked.Sublist domains ∧ ∃ back,
        host.toList ++ '/' :: rest.toList =
          front ++ ((String.join picked).toList ++ '/' :: back) := by
  have hurl : scheme ++ "://" ++ host ++ "/" ++ rest =
      scheme ++ "://" ++ (host ++ "/" ++ rest) := by
    simp only [String.append_assoc]
  have hbehind : (host ++ "/" ++ rest).toList = host.toList ++ '/' :: rest.toList := by
    simp
  rw [hurl, matches_ofScheme_iff (fun d hd => accepts_of_isName (hdomains d hd))
    (isScheme_of_mem hscheme), hbehind]
  constructor
  · rintro ⟨front, names, back, htext, hfront, picked, hsub, hnames⟩
    simp only [foldCase_true, List.map_id] at hnames
    exact ⟨front, hfront, picked, hsub, back, by simp [htext, hnames]⟩
  · rintro ⟨front, hfront, picked, hsub, back, htext⟩
    exact ⟨front, (String.join picked).toList, back, htext, hfront, picked, hsub, by simp⟩

/-- Domains that stand one behind the other at the end of a host: none of them is impossible. -/
lemma within_or_isFused {picked : List String} (hhost : Host.IsName host)
    (hsub : picked.Sublist domains) (hwithin : Host.Within host (String.join picked)) :
    (∃ d ∈ domains, Host.Within host d) ∨ IsFused domains host := by
  match picked, hsub, hwithin with
  | [], _, .inl hempty => exact absurd (by simp [hempty]) hhost.toList_ne_nil
  | [], _, .inr ⟨inner, hinner⟩ => exact absurd (by simp) (hhost.back_ne_nil hinner)
  | [d], hsub, hwithin =>
      exact .inl ⟨d, List.singleton_sublist.mp hsub, by simpa [String.join] using hwithin⟩
  | d :: d' :: picked, hsub, hwithin => exact .inr ⟨_, hsub, by simp, hwithin⟩

/-- A front that reaches into the rest of a URL leaves its last full stop there. -/
lemma rest_eq_of_front {front names m : List Char} (hfront : IsFront front) (hnames : '/' ∉ names)
    (h : front ++ names = host.toList ++ '/' :: m) : ∃ inner, m = inner ++ '.' :: names := by
  rcases hfront with rfl | ⟨inner, rfl, -, -⟩
  · exact absurd (by simp [show names = host.toList ++ '/' :: m by simpa using h]) hnames
  · rw [List.append_assoc, List.singleton_append] at h
    rcases List.append_eq_append_iff.mp h with ⟨n, hn, hbehind⟩ | ⟨n, rfl, hbehind⟩
    · have hslash : '/' ∈ '.' :: names := by simp [hbehind]
      exact absurd (by simpa using hslash) hnames
    · cases n with
      | nil => simp at hbehind
      | cons c n => exact ⟨n, (List.cons.inj hbehind).2⟩

/-- **The reach of a filter.**  A filter matches a URL exactly when its host is one of the domains
or lies under one, or the host ends with several domains one behind the other, or domains are named
in the rest of the URL. -/
theorem matches_iff_within_or_overreaches (hdomains : ∀ d ∈ domains, Host.IsName d)
    (hscheme : scheme ∈ ["http", "https", "ws", "wss"]) (hhost : Host.IsName host)
    (hrest : '\n' ∉ rest.toList) :
    Matches (ofDomains domains) true (scheme ++ "://" ++ host ++ "/" ++ rest) ↔
      (∃ d ∈ domains, Host.Within host d) ∨ IsFused domains host ∨ RestNames domains rest := by
  have hslash : '/' ∉ host.toList := hhost.notMem (by decide) rfl
  rw [matches_url_iff hdomains hscheme]
  constructor
  · rintro ⟨front, hfront, picked, hsub, back, hurl⟩
    rw [← List.append_assoc] at hurl
    rcases Text.cut_eq_or_later hslash hurl with ⟨hat, -⟩ | ⟨m, hlater, hback⟩
    · have hwithin := (within_iff_front hhost).mpr ⟨front, hfront, hat.symm⟩
      exact or_assoc.mp (.inl (within_or_isFused hhost hsub hwithin))
    · have hnames : '/' ∉ (String.join picked).toList := by
        simp only [String.toList_join, List.mem_flatMap, not_exists, not_and]
        intro d hd
        exact (hdomains d (hsub.subset hd)).notMem (by decide) rfl
      obtain ⟨inner, rfl⟩ := rest_eq_of_front hfront hnames hlater
      exact .inr (.inr ⟨picked, hsub, inner, back, by simp [hback]⟩)
  · have hmatch {picked : List String} (hsub : picked.Sublist domains)
        (hwithin : Host.Within host (String.join picked)) :
        ∃ front, IsFront front ∧ ∃ picked : List String, picked.Sublist domains ∧ ∃ back,
          host.toList ++ '/' :: rest.toList =
            front ++ ((String.join picked).toList ++ '/' :: back) := by
      obtain ⟨front, hfront, hat⟩ := (within_iff_front hhost).mp hwithin
      exact ⟨front, hfront, picked, hsub, rest.toList, by rw [hat, List.append_assoc]⟩
    rintro (⟨d, hd, hwithin⟩ | ⟨picked, hsub, -, hwithin⟩ | ⟨picked, hsub, front, back, hnamed⟩)
    · exact hmatch (List.singleton_sublist.mpr hd) (by simpa [String.join] using hwithin)
    · exact hmatch hsub hwithin
    · refine ⟨host.toList ++ '/' :: (front ++ ['.']), .inr ⟨host.toList ++ '/' :: front, by simp,
        by simp, ?_⟩, picked, hsub, back, by simp [hnamed]⟩
      have hline := hhost.notMem (c := '\n') (by decide) rfl
      have hfront : '\n' ∉ front := fun hmem => hrest (by simp [hnamed, hmem])
      simp [hline, hfront]

/-- A host under two listed domains and a path that names none: the filter matches by the host. -/
theorem matches_iff_at_subdomain :
    (∀ d ∈ ["b.org", "a.com"], Host.IsName d) ∧ "wss" ∈ ["http", "https", "ws", "wss"] ∧
      Host.IsName "x.a.com" ∧ '\n' ∉ "live/b.org".toList ∧
      (Matches (ofDomains ["b.org", "a.com"]) true ("wss" ++ "://" ++ "x.a.com" ++ "/" ++
          "live/b.org") ↔
        (∃ d ∈ ["b.org", "a.com"], Host.Within "x.a.com" d) ∨
          IsFused ["b.org", "a.com"] "x.a.com" ∨ RestNames ["b.org", "a.com"] "live/b.org") :=
  ⟨by decide, by decide, by decide, by decide,
    matches_iff_within_or_overreaches (by decide) (by decide) (by decide)
      (by decide)⟩

/-- The filter of `a.com` matches a URL of `b.org`, which names `a.com` in its path only. -/
theorem matches_host_outside_domains :
    (∀ d ∈ ["a.com"], Host.IsName d) ∧ Host.IsName "b.org" ∧
      Matches (ofDomains ["a.com"]) true ("https" ++ "://" ++ "b.org" ++ "/" ++ "x.a.com/") ∧
      ¬ ∃ d ∈ ["a.com"], Host.Within "b.org" d := by
  have hname : ∀ d ∈ ["a.com"], Host.IsName d := by decide
  refine ⟨hname, by decide, ?_, ?_⟩
  · rw [matches_url_iff hname (by decide)]
    exact ⟨"b.org/x.".toList, .inr ⟨"b.org/x".toList, by decide, by decide, by decide⟩, ["a.com"],
      List.Sublist.refl _, [], by decide⟩
  · rintro ⟨d, hd, hwithin⟩
    obtain rfl := List.mem_singleton.mp hd
    rcases hwithin with heq | ⟨front, hfront⟩
    · exact absurd heq (by decide)
    · have hlength := congrArg List.length hfront
      simp at hlength

end Url

end TrackerGuard.Filter
