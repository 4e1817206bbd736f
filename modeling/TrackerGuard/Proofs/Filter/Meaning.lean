import Mathlib
import TrackerGuard.Proofs.Filter.Reading

/-!
# Which texts a filter of domains matches

The texts that a filter matches, described without patterns.  `matches_ofDomains_iff` cuts a matched
URL into the scheme with `://` behind it, a *front* that is empty or ends with a full stop, some of
the domains one behind the other, a slash, and anything at all.

The domains are a sublist of those of the filter: as every group may be left out, a filter does not
choose one domain but any number of them, none included, in the order of the list.  And the front
is any text without a line feed, so it may reach beyond the host.

Each pattern of the dialect gets a lemma that says what it spans.  Only `^` asks what stands around
the part that it spans; for the others the surroundings drop out, which is why the lemmas can be
chained along a sequence without carrying them.
-/

namespace TrackerGuard.Filter

namespace Pattern

variable {fold : Char → Char} {before part after : List Char}

/-! ## The patterns of the dialect -/

lemma spans_empty_iff : Spans fold .empty before part after ↔ part = [] := by
  constructor
  · intro h
    cases h with
    | empty => rfl
  · rintro rfl
    exact .empty

lemma spans_char_iff {c : Char} :
    Spans fold (.char c) before part after ↔ part.map fold = [fold c] := by
  constructor
  · intro h
    cases h with
    | char h => simp [h]
  · intro h
    obtain ⟨d, rfl, hd⟩ := List.map_eq_singleton_iff.mp h
    exact .char hd.symm

lemma spans_oneOf_singleton_iff {c : Char} :
    Spans fold (.oneOf [c]) before part after ↔ part.map fold = [fold c] := by
  constructor
  · intro h
    cases h with
    | oneOf hc h => simp [← h, List.mem_singleton.mp hc]
  · intro h
    obtain ⟨d, rfl, hd⟩ := List.map_eq_singleton_iff.mp h
    exact .oneOf (by simp) hd.symm

lemma spans_any_iff :
    Spans fold .any before part after ↔ ∃ c, part = [c] ∧ c ≠ '\n' := by
  constructor
  · intro h
    cases h with
    | any h => exact ⟨_, rfl, h⟩
  · rintro ⟨c, rfl, h⟩
    exact .any h

lemma spans_start_iff : Spans fold .start before part after ↔ before = [] ∧ part = [] := by
  constructor
  · intro h
    cases h with
    | start => exact ⟨rfl, rfl⟩
  · rintro ⟨rfl, rfl⟩
    exact .start

lemma spans_both_iff {p q : Pattern} :
    Spans fold (.both p q) before part after ↔
      ∃ l r, part = l ++ r ∧ Spans fold p before l (r ++ after) ∧
        Spans fold q (before ++ l) r after := by
  constructor
  · intro h
    cases h with
    | both hp hq => exact ⟨_, _, rfl, hp, hq⟩
  · rintro ⟨l, r, rfl, hp, hq⟩
    exact .both hp hq

lemma spans_optional_iff {p : Pattern} :
    Spans fold (.optional p) before part after ↔
      part = [] ∨ Spans fold p before part after := by
  constructor
  · intro h
    cases h with
    | without => exact .inl rfl
    | once h => exact .inr h
  · rintro (rfl | h)
    · exact .without
    · exact .once h

/-- `.*` spans what has no line feed. -/
lemma spans_many_any_iff :
    Spans fold (.many .any) before part after ↔ '\n' ∉ part := by
  constructor
  · intro h
    generalize hp : Pattern.many .any = p at h
    induction h with
    | never => simp
    | again hfirst _ _ ih =>
        cases hp
        obtain ⟨c, rfl, hc⟩ := spans_any_iff.mp hfirst
        simpa [hc.symm] using ih rfl
    | _ => cases hp
  · intro h
    induction part generalizing before with
    | nil => exact .never
    | cons c part ih =>
        have hc : c ≠ '\n' := fun hc => h (by simp [hc])
        have hrest := @ih (before ++ [c]) fun hmem => h (List.mem_cons_of_mem _ hmem)
        exact .again (.any hc) hrest

/-- `.+` spans what is not empty and has no line feed. -/
lemma spans_some_any_iff :
    Spans fold (.both .any (.many .any)) before part after ↔ part ≠ [] ∧ '\n' ∉ part := by
  rw [spans_both_iff]
  simp only [spans_any_iff, spans_many_any_iff]
  constructor
  · rintro ⟨_, r, rfl, ⟨c, rfl, hc⟩, hr⟩
    simp [hc.symm, hr]
  · rintro ⟨hne, hpart⟩
    obtain ⟨c, r, rfl⟩ := List.exists_cons_of_ne_nil hne
    simp only [List.mem_cons, not_or] at hpart
    exact ⟨[c], r, rfl, ⟨c, rfl, fun hc => hpart.1 hc.symm⟩, hpart.2⟩

/-- A text spans what is like it. -/
lemma spans_literal_iff {cs : List Char} :
    Spans fold (literal cs) before part after ↔ part.map fold = cs.map fold := by
  induction cs generalizing before part with
  | nil => simp [literal, spans_empty_iff]
  | cons c cs ih =>
      have hcons : literal (c :: cs) = .both (.char c) (literal cs) := rfl
      rw [hcons, spans_both_iff]
      simp only [spans_char_iff, ih]
      constructor
      · rintro ⟨l, r, rfl, hl, hr⟩
        simp [hl, hr]
      · intro h
        obtain ⟨d, r, rfl, hd, hr⟩ := List.map_eq_cons_iff.mp h
        exact ⟨[d], r, rfl, by simp [hd], hr⟩

/-! ## The pieces of a filter -/

/-- What `(https?)?` stands for. -/
def httpWords : List (List Char) := [[], "http".toList, "https".toList]

/-- What `(wss?)?` stands for. -/
def socketWords : List (List Char) := [[], "ws".toList, "wss".toList]

/-- A word whose last letter may be left out. -/
lemma spans_word_optional_iff {cs : List Char} {c : Char} :
    Spans fold (.optional (sequence (cs.map .char ++ [.optional (.char c)]))) before part after ↔
      ∃ word ∈ [[], cs, cs ++ [c]], part.map fold = word.map fold := by
  have hsequence : ∀ before part, Spans fold (sequence (cs.map .char ++ [.optional (.char c)]))
      before part after ↔
        part.map fold = cs.map fold ∨ part.map fold = (cs ++ [c]).map fold := by
    induction cs with
    | nil =>
        intro before part
        simp [spans_both_iff, spans_optional_iff, spans_char_iff, spans_empty_iff]
    | cons d cs ih =>
        intro before part
        simp only [List.map_cons, List.cons_append, sequence_cons, spans_both_iff, spans_char_iff,
          ih]
        constructor
        · rintro ⟨l, r, rfl, hl, hr | hr⟩
          · simp [hl, hr]
          · simp [hl, hr]
        · rintro (h | h)
          · obtain ⟨e, r, rfl, he, hr⟩ := List.map_eq_cons_iff.mp h
            exact ⟨[e], r, rfl, by simp [he], .inl hr⟩
          · obtain ⟨e, r, rfl, he, hr⟩ := List.map_eq_cons_iff.mp h
            exact ⟨[e], r, rfl, by simp [he], .inr hr⟩
  simp [spans_optional_iff, hsequence]

lemma spans_httpPattern_iff :
    Spans fold httpPattern before part after ↔
      ∃ word ∈ httpWords, part.map fold = word.map fold :=
  @spans_word_optional_iff _ _ _ _ ['h', 't', 't', 'p'] 's'

lemma spans_socketPattern_iff :
    Spans fold socketPattern before part after ↔
      ∃ word ∈ socketWords, part.map fold = word.map fold :=
  @spans_word_optional_iff _ _ _ _ ['w', 's'] 's'

/-- `(.+\.)?` spans nothing, or some text and a full stop. -/
lemma spans_subdomainPattern_iff :
    Spans fold subdomainPattern before part after ↔
      part = [] ∨ ∃ inner dot, part = inner ++ [dot] ∧ inner ≠ [] ∧ '\n' ∉ inner ∧
        fold dot = fold '.' := by
  have hsequence : Spans fold (sequence [.both .any (.many .any), .char '.']) before part after ↔
      ∃ inner dot, part = inner ++ [dot] ∧ inner ≠ [] ∧ '\n' ∉ inner ∧ fold dot = fold '.' := by
    simp only [sequence_cons, sequence_nil, spans_both_iff (p := .both .any (.many .any)),
      spans_some_any_iff, spans_both_iff (p := .char '.'), spans_char_iff, spans_empty_iff]
    constructor
    · rintro ⟨inner, _, rfl, ⟨hne, hline⟩, _, _, rfl, hdot, rfl⟩
      obtain ⟨dot, rfl, hdot'⟩ := List.map_eq_singleton_iff.mp hdot
      exact ⟨inner, dot, by simp, hne, hline, hdot'⟩
    · rintro ⟨inner, dot, rfl, hne, hline, hdot⟩
      exact ⟨inner, [dot], rfl, ⟨hne, hline⟩, [dot], [], by simp, by simp [hdot], rfl⟩
  rw [subdomainPattern, spans_optional_iff, hsequence]

/-- The groups of domains span any of the domains one behind the other, in their order. -/
lemma spans_domainsPattern_iff {domains : List (List Char)} :
    Spans fold (domainsPattern domains) before part after ↔
      ∃ picked : List (List Char), picked.Sublist domains ∧
        part.map fold = picked.flatten.map fold := by
  induction domains generalizing before part with
  | nil => simp [domainsPattern, spans_empty_iff]
  | cons domain domains ih =>
      have hcons : domainsPattern (domain :: domains) =
          .both (.optional (literal domain)) (domainsPattern domains) := rfl
      rw [hcons, spans_both_iff]
      simp only [spans_optional_iff, spans_literal_iff, ih]
      constructor
      · rintro ⟨l, r, rfl, rfl | hl, picked, hsub, hr⟩
        · exact ⟨picked, hsub.cons _, by simpa using hr⟩
        · exact ⟨domain :: picked, hsub.cons_cons _, by simp [hl, hr]⟩
      · rintro ⟨picked, hsub, hpart⟩
        cases hsub with
        | cons _ hsub => exact ⟨[], part, rfl, .inl rfl, picked, hsub, hpart⟩
        | @cons_cons rest _ _ hsub =>
            rw [List.flatten_cons, List.map_append] at hpart
            obtain ⟨l, r, rfl, hl, hr⟩ := List.map_eq_append_iff.mp hpart
            exact ⟨l, r, rfl, .inr hl, rest, hsub, hr⟩

end Pattern

/-! ## The whole filter -/

open Pattern

/-- Only letters are alike to another character. -/
lemma eq_of_foldCase_eq {caseSensitive : Bool} {c d : Char} (hd : d.isAlpha = false)
    (h : foldCase caseSensitive c = foldCase caseSensitive d) : c = d := by
  cases caseSensitive with
  | true => simpa [foldCase] using h
  | false =>
      simp only [foldCase, Bool.false_eq_true, if_false] at h
      have hc : c.isAlpha = false := by
        rw [← Char.isAlpha_toLower_eq_isAlpha, h, Char.isAlpha_toLower_eq_isAlpha, hd]
      simp only [Char.isAlpha, Bool.or_eq_false_iff] at hc hd
      rwa [Char.toLower_eq_of_not_isUpper (by simp [hc.1]),
        Char.toLower_eq_of_not_isUpper (by simp [hd.1])] at h

lemma eq_singleton_of_map_foldCase {caseSensitive : Bool} {part : List Char} {d : Char}
    (hd : d.isAlpha = false)
    (h : part.map (foldCase caseSensitive) = [foldCase caseSensitive d]) : part = [d] := by
  obtain ⟨c, rfl, hc⟩ := List.map_eq_singleton_iff.mp h
  rw [eq_of_foldCase_eq hd hc]

/-- The schemes that a filter lets through. -/
def IsScheme (caseSensitive : Bool) (scheme : List Char) : Prop :=
  ∃ http ∈ httpWords, ∃ socket ∈ socketWords,
    scheme.map (foldCase caseSensitive) = (http ++ socket).map (foldCase caseSensitive)

/-- What may stand between the scheme and the domains: nothing, or a text up to a full stop. -/
def IsFront (front : List Char) : Prop :=
  front = [] ∨ ∃ inner, front = inner ++ ['.'] ∧ inner ≠ [] ∧ '\n' ∉ inner

/-- The text is some of the domains one behind the other, in their order. -/
def SpellsDomains (caseSensitive : Bool) (domains : List String) (names : List Char) : Prop :=
  ∃ picked : List String, picked.Sublist domains ∧
    names.map (foldCase caseSensitive) =
      (picked.flatMap String.toList).map (foldCase caseSensitive)

variable {caseSensitive : Bool}

lemma isFront_iff {front : List Char} :
    IsFront front ↔ front = [] ∨ ∃ inner dot, front = inner ++ [dot] ∧ inner ≠ [] ∧
      '\n' ∉ inner ∧ foldCase caseSensitive dot = foldCase caseSensitive '.' := by
  refine or_congr Iff.rfl ⟨?_, ?_⟩
  · rintro ⟨inner, hfront, hne, hline⟩
    exact ⟨inner, '.', hfront, hne, hline, rfl⟩
  · rintro ⟨inner, dot, hfront, hne, hline, hdot⟩
    obtain rfl := eq_of_foldCase_eq (by decide) hdot
    exact ⟨inner, hfront, hne, hline⟩

lemma spellsDomains_iff {domains : List String} {names : List Char} :
    SpellsDomains caseSensitive domains names ↔
      ∃ picked : List (List Char), picked.Sublist (domains.map String.toList) ∧
        names.map (foldCase caseSensitive) = picked.flatten.map (foldCase caseSensitive) := by
  constructor
  · rintro ⟨picked, hsub, hnames⟩
    exact ⟨picked.map String.toList, hsub.map _, hnames⟩
  · rintro ⟨_, hsub, hnames⟩
    obtain ⟨picked, hpicked, rfl⟩ := List.sublist_map_iff.mp hsub
    exact ⟨picked, hpicked, hnames⟩

/-- What is like one of the domains is spelled by its group, with all other groups left out. -/
lemma spellsDomains_of_like {domains : List String} {domain : String} {names : List Char}
    (hmem : domain ∈ domains)
    (hlike : names.map (foldCase caseSensitive) = domain.toList.map (foldCase caseSensitive)) :
    SpellsDomains caseSensitive domains names :=
  ⟨[domain], List.singleton_sublist.mpr hmem, by rw [hlike, List.flatMap_singleton]⟩

/-- The part of a URL that the pattern of a filter spans, cut into its pieces. -/
lemma spans_hostPattern_iff {domains : List String} {before part after : List Char} :
    Spans (foldCase caseSensitive) (hostPattern (domains.map String.toList)) before part after ↔
      before = [] ∧ ∃ scheme front names tail,
        part = scheme ++ ':' :: '/' :: '/' :: (front ++ (names ++ '/' :: tail)) ∧
          IsScheme caseSensitive scheme ∧ IsFront front ∧
            SpellsDomains caseSensitive domains names ∧ '\n' ∉ tail := by
  simp only [hostPattern, sequence_cons, sequence_nil, spans_both_iff, spans_start_iff,
    spans_httpPattern_iff, spans_socketPattern_iff, spans_char_iff, spans_oneOf_singleton_iff,
    spans_subdomainPattern_iff, spans_domainsPattern_iff, spans_many_any_iff, spans_empty_iff,
    ← isFront_iff, ← spellsDomains_iff]
  constructor
  · rintro ⟨_, _, rfl, ⟨rfl, rfl⟩, http, _, rfl, ⟨word, hword, hhttp⟩, socket, _, rfl,
      ⟨word', hword', hsocket⟩, colon, _, rfl, hcolon, slash, _, rfl, hslash, slash', _, rfl,
      hslash', front, _, rfl, hfront, names, _, rfl, hnames, slash'', _, rfl, hslash'', tail, _,
      rfl, htail, rfl⟩
    obtain rfl := eq_singleton_of_map_foldCase (by decide) hcolon
    obtain rfl := eq_singleton_of_map_foldCase (by decide) hslash
    obtain rfl := eq_singleton_of_map_foldCase (by decide) hslash'
    obtain rfl := eq_singleton_of_map_foldCase (by decide) hslash''
    refine ⟨rfl, http ++ socket, front, names, tail, by simp, ?_, hfront, hnames, htail⟩
    exact ⟨word, hword, word', hword', by simp [hhttp, hsocket]⟩
  · rintro ⟨rfl, scheme, front, names, tail, rfl, ⟨word, hword, word', hword', hscheme⟩, hfront,
      hnames, htail⟩
    rw [List.map_append] at hscheme
    obtain ⟨http, socket, rfl, hhttp, hsocket⟩ := List.map_eq_append_iff.mp hscheme
    exact ⟨[], _, rfl, ⟨rfl, rfl⟩, http, _, by simp, ⟨word, hword, hhttp⟩, socket, _, rfl,
      ⟨word', hword', hsocket⟩, [':'], _, rfl, rfl, ['/'], _, rfl, rfl, ['/'], _, rfl, rfl, front,
      _, rfl, hfront, names, _, rfl, hnames, ['/'], tail, rfl, rfl, tail, [], by simp, htail, rfl⟩

/-- **What a filter of domains matches**: the URLs that begin with a scheme, a front and some of the
domains, with a slash behind them. -/
theorem matches_ofDomains_iff {domains : List String} (h : ∀ d ∈ domains, accepts d)
    {url : String} :
    Matches (ofDomains domains) caseSensitive url ↔
      ∃ scheme front names rest,
        url.toList = scheme ++ ':' :: '/' :: '/' :: (front ++ (names ++ '/' :: rest)) ∧
          IsScheme caseSensitive scheme ∧ IsFront front ∧
            SpellsDomains caseSensitive domains names := by
  simp only [Filter.Matches, ofText?_ofDomains h, Option.some.injEq, exists_eq_left',
    Pattern.Matches, spans_hostPattern_iff]
  constructor
  · rintro ⟨_, _, after, htext, rfl, scheme, front, names, tail, rfl, hscheme, hfront, hnames, -⟩
    exact ⟨scheme, front, names, tail ++ after, by simp [htext], hscheme, hfront, hnames⟩
  · rintro ⟨scheme, front, names, rest, htext, hscheme, hfront, hnames⟩
    -- `.*` at the end may as well span nothing, which leaves the rest behind the match.
    exact ⟨[], _, rest, by simp [htext], rfl, scheme, front, names, [], rfl, hscheme, hfront,
      hnames, by simp⟩

end TrackerGuard.Filter
