import Mathlib
import TrackerGuard.Proofs.Text.Ends
import TrackerGuard.Url

/-!
# The grammar of URLs with a host

A URL with a host is `scheme://userinfo@host:port` and a rest that begins with a slash, a question
mark or a number sign.  `Spelling.IsValid` says of such pieces what they are made of, without
reference to the order in which a text is searched for them.

Cutting is exact (`parts?_eq_some_iff`): a text is cut into pieces exactly when they are a valid
spelling of it.  So the pieces are unique although an `@` and a colon may stand in the userinfo and
anything in the rest.  Each cut is a search for a first or a last character, and has one lemma that
says what it finds.
-/

namespace TrackerGuard.Url

open Text

variable {cs scheme userinfo host port rest authority : List Char}

/-! ## Schemes -/

/-- A letter, and then letters, digits, `+`, `-` and `.`. -/
def IsScheme (cs : List Char) : Prop :=
  ∃ c rest, cs = c :: rest ∧ c.isAlpha ∧ ∀ d ∈ rest, isSchemeChar d

lemma IsScheme.colon_notMem (h : IsScheme scheme) : ':' ∉ scheme := by
  obtain ⟨c, rest, rfl, hc, hrest⟩ := h
  rw [List.mem_cons, not_or]
  constructor
  · rintro rfl
    cases hc
  · intro hcolon
    cases hrest ':' hcolon

lemma splitScheme?_eq_some_iff :
    splitScheme? cs = some (scheme, rest) ↔
      IsScheme scheme ∧ cs = scheme ++ ':' :: '/' :: '/' :: rest := by
  constructor
  · intro h
    unfold splitScheme? at h
    split at h
    next c letters behind hspan =>
      obtain ⟨hcs, -, -⟩ := span_ne_eq_iff.mp hspan
      split_ifs at h with hscheme
      cases h
      rw [Bool.and_eq_true, List.all_eq_true] at hscheme
      exact ⟨⟨c, letters, rfl, hscheme⟩, hcs⟩
    next => cases h
  · rintro ⟨hscheme, rfl⟩
    rw [splitScheme?, span_ne_eq_iff.mpr ⟨rfl, hscheme.colon_notMem, by simp⟩]
    obtain ⟨c, letters, rfl, hc, hletters⟩ := hscheme
    simp [hc, List.all_eq_true.mpr hletters]

/-! ## Authorities -/

lemma splitUserinfo_eq_iff :
    splitUserinfo authority = (userinfo, host) ↔
      authority = userinfo ++ host ∧ '@' ∉ host ∧ ∀ c ∈ userinfo.getLast?, c = '@' := by
  have hswap : splitUserinfo authority = (userinfo, host) ↔
      authority.reverse.span (· != '@') = (host.reverse, userinfo.reverse) := by
    rw [splitUserinfo, Prod.mk.injEq, Prod.ext_iff]
    simp only [List.reverse_eq_iff]
    exact and_comm
  rw [hswap, span_ne_eq_iff, ← List.reverse_append, List.reverse_inj, List.mem_reverse,
    List.head?_reverse]

/-- A host with what follows it in the authority.  Behind an address in brackets anything may
stand, and any other host goes up to the first colon. -/
inductive IsHostWithPort : (host port : List Char) → Prop where
  | bracketed (inside port : List Char) (hclose : ']' ∉ inside) :
      IsHostWithPort ('[' :: inside ++ [']']) port
  | plain {host port : List Char} (hopen : host.head? ≠ some '[') (hcolon : ':' ∉ host)
      (hport : ∀ c ∈ port.head?, c = ':') : IsHostWithPort host port

lemma splitHost?_eq_some_iff :
    splitHost? cs = some (host, port) ↔ cs = host ++ port ∧ IsHostWithPort host port := by
  constructor
  · intro h
    unfold splitHost? at h
    split at h
    next tail =>
      split at h
      next inside close behind hspan =>
        cases h
        obtain ⟨hcs, hinside, hclose⟩ := span_ne_eq_iff.mp hspan
        obtain rfl : close = ']' := hclose close rfl
        cases inside with
        | nil => cases hcs
        | cons first inside =>
            obtain ⟨rfl, hcs⟩ := List.cons.inj hcs
            refine ⟨by simp [hcs], .bracketed inside port ?_⟩
            exact fun hmem => hinside (List.mem_cons_of_mem _ hmem)
      next => cases h
    next hplain =>
      obtain ⟨rfl, hcolon, hport⟩ := span_ne_eq_iff.mp (Option.some.inj h)
      refine ⟨rfl, .plain ?_ hcolon hport⟩
      intro hhead
      obtain ⟨tail, rfl⟩ := List.head?_eq_some_iff.mp hhead
      exact hplain _ rfl
  · rintro ⟨rfl, hhost⟩
    cases hhost with
    | bracketed inside port hclose =>
        have hcs : '[' :: inside ++ [']'] ++ port = '[' :: (inside ++ ']' :: port) := by simp
        have hspan : ('[' :: (inside ++ ']' :: port)).span (· != ']') =
            ('[' :: inside, ']' :: port) :=
          span_ne_eq_iff.mpr ⟨rfl, by simp [hclose], by simp⟩
        rw [hcs]
        simp only [splitHost?, hspan]
    | plain hopen hcolon hport =>
        have hspan : (host ++ port).span (· != ':') = (host, port) :=
          span_ne_eq_iff.mpr ⟨rfl, hcolon, hport⟩
        unfold splitHost?
        split
        next tail hcs =>
          -- Neither the host nor, behind an empty host, the port begins with a bracket.
          cases host with
          | nil =>
              have hfirst : '[' ∈ port.head? := by rw [show port = '[' :: tail from hcs]; rfl
              cases hport '[' hfirst
          | cons c host =>
              cases hcs
              exact absurd rfl hopen
        next => rw [hspan]

/-! ## URLs -/

/-- The pieces of a URL with a host. -/
structure Spelling where
  scheme : List Char
  /-- Empty, or with an `@` at its end. -/
  userinfo : List Char
  host : List Char
  /-- What follows the host in the authority. -/
  port : List Char
  /-- What follows the authority. -/
  rest : List Char

namespace Spelling

/-- The pieces around the host. -/
def parts (w : Spelling) : Parts := ⟨w.scheme, w.userinfo, w.host, w.port ++ w.rest⟩

/-- The URL that is put together from the pieces. -/
def text (w : Spelling) : List Char :=
  w.scheme ++ "://".toList ++ w.userinfo ++ w.host ++ w.port ++ w.rest

/-- What the pieces of a URL with a host are made of. -/
structure IsValid (w : Spelling) : Prop where
  isScheme : IsScheme w.scheme
  userinfo_plain : ∀ c ∈ w.userinfo, endsAuthority c = false
  userinfo_last : ∀ c ∈ w.userinfo.getLast?, c = '@'
  host_plain : ∀ c ∈ w.host ++ w.port, endsAuthority c = false ∧ c ≠ '@'
  isHostWithPort : IsHostWithPort w.host w.port
  rest_head : ∀ c ∈ w.rest.head?, endsAuthority c

end Spelling

/-- **A text is cut into pieces exactly when they are a valid spelling of it.** -/
theorem parts?_eq_some_iff {url : String} {p : Parts} :
    parts? url = some p ↔ ∃ w : Spelling, w.IsValid ∧ url.toList = w.text ∧ w.parts = p := by
  constructor
  · intro h
    rw [parts?] at h
    obtain ⟨⟨scheme, behind⟩, hscheme, h⟩ := Option.bind_eq_some_iff.mp h
    rcases hauthority : behind.span (!endsAuthority ·) with ⟨authority, rest⟩
    rcases huserinfo : splitUserinfo authority with ⟨userinfo, behind'⟩
    simp only [hauthority, huserinfo] at h
    obtain ⟨⟨host, port⟩, hhost, hparts⟩ := Option.bind_eq_some_iff.mp h
    obtain ⟨hisScheme, htext⟩ := splitScheme?_eq_some_iff.mp hscheme
    obtain ⟨rfl, hplain, hrest⟩ := span_eq_iff.mp hauthority
    obtain ⟨rfl, hat, hlast⟩ := splitUserinfo_eq_iff.mp huserinfo
    obtain ⟨rfl, hisHost⟩ := splitHost?_eq_some_iff.mp hhost
    simp only [Bool.not_eq_true'] at hplain
    refine ⟨⟨scheme, userinfo, host, port, rest⟩, ⟨hisScheme, ?_, hlast, ?_, hisHost, ?_⟩, ?_, ?_⟩
    · exact fun c hc => hplain c (List.mem_append_left _ hc)
    · intro c hc
      refine ⟨hplain c (List.mem_append_right _ hc), ?_⟩
      rintro rfl
      exact hat hc
    · simpa using hrest
    · simp [htext, Spelling.text]
    · exact Option.some.inj hparts
  · rintro ⟨w, h, htext, rfl⟩
    have hscheme : splitScheme? url.toList =
        some (w.scheme, w.userinfo ++ (w.host ++ w.port) ++ w.rest) :=
      splitScheme?_eq_some_iff.mpr ⟨h.isScheme, by simp [htext, Spelling.text]⟩
    have hauthority : (w.userinfo ++ (w.host ++ w.port) ++ w.rest).span (!endsAuthority ·) =
        (w.userinfo ++ (w.host ++ w.port), w.rest) := by
      refine span_eq_iff.mpr ⟨rfl, ?_, by simpa using h.rest_head⟩
      intro c hc
      rcases List.mem_append.mp hc with hc | hc
      · simp [h.userinfo_plain c hc]
      · simp [(h.host_plain c hc).1]
    have huserinfo : splitUserinfo (w.userinfo ++ (w.host ++ w.port)) =
        (w.userinfo, w.host ++ w.port) :=
      splitUserinfo_eq_iff.mpr ⟨rfl, fun hat => (h.host_plain _ hat).2 rfl, h.userinfo_last⟩
    have hhost : splitHost? (w.host ++ w.port) = some (w.host, w.port) :=
      splitHost?_eq_some_iff.mpr ⟨rfl, h.isHostWithPort⟩
    rw [parts?, hscheme]
    simp only [Option.bind_eq_bind, Option.bind_some, hauthority, huserinfo, hhost]
    rfl

end TrackerGuard.Url
