import Mathlib
import TrackerGuard.Proofs.Host.Name
import TrackerGuard.Proofs.Url.Grammar

/-!
# The host of an ordinary web URL

Most URLs are of the form `scheme://host:port/rest`, with a scheme of the web, a host made of labels
and a port that may be missing.  Their host is found whatever stands behind the slash
(`host?_ofParts`), since none of the characters before it ends the authority, and neither an `@` nor
a bracket is among them.
-/

namespace TrackerGuard.Url

/-! ## Schemes and ports -/

/-- The schemes of the web, in any case. -/
def IsWebScheme (scheme : String) : Prop :=
  scheme.toList.map Char.toLower ∈ ["http", "https", "ws", "wss"].map String.toList

instance (scheme : String) : Decidable (IsWebScheme scheme) := inferInstanceAs (Decidable (_ ∈ _))

/-- A port with its colon, or nothing. -/
def IsPort (port : String) : Prop :=
  port = "" ∨ ∃ digits : List Char, port.toList = ':' :: digits ∧ ∀ d ∈ digits, d.isDigit

variable {scheme host port rest : String} {c : Char}

/-- A scheme of the web is made of letters. -/
lemma IsWebScheme.isAlpha (h : IsWebScheme scheme) (hc : c ∈ scheme.toList) : c.isAlpha := by
  have hwords : (["http", "https", "ws", "wss"].map String.toList).all (·.all Char.isAlpha) := by
    decide
  have hword := List.all_eq_true.mp hwords _ h
  have hlower := List.all_eq_true.mp hword c.toLower (List.mem_map_of_mem hc)
  rwa [Char.isAlpha_toLower_eq_isAlpha] at hlower

lemma IsWebScheme.ne_nil (h : IsWebScheme scheme) : scheme.toList ≠ [] := by
  intro hnil
  rw [IsWebScheme, hnil] at h
  revert h
  decide

lemma IsPort.notMem (h : IsPort port) (hcolon : c ≠ ':') (hdigit : c.isDigit = false) :
    c ∉ port.toList := by
  rcases h with rfl | ⟨digits, hport, hdigits⟩
  · simp
  · rw [hport, List.mem_cons, not_or]
    refine ⟨hcolon, ?_⟩
    intro hc
    rw [hdigits c hc] at hdigit
    cases hdigit

/-- No character of a port can end the authority or the userinfo. -/
lemma IsPort.plain (h : IsPort port) (hc : c ∈ port.toList) :
    endsAuthority c = false ∧ c ≠ '@' := by
  have hne (d : Char) (hcolon : d ≠ ':') (hdigit : d.isDigit = false) : c ≠ d := by
    rintro rfl
    exact h.notMem hcolon hdigit hc
  simp [endsAuthority, hne '/' (by decide) rfl, hne '?' (by decide) rfl, hne '#' (by decide) rfl,
    hne '@' (by decide) rfl]

/-! ## The host of a web URL -/

lemma IsWebScheme.isScheme (h : IsWebScheme scheme) : IsScheme scheme.toList := by
  obtain ⟨first, letters, hletters⟩ := List.exists_cons_of_ne_nil h.ne_nil
  have halpha : ∀ d ∈ first :: letters, d.isAlpha := fun d hd => h.isAlpha (hletters ▸ hd)
  refine ⟨first, letters, hletters, halpha first List.mem_cons_self, ?_⟩
  intro d hd
  simp [isSchemeChar, Char.isAlphanum, halpha d (List.mem_cons_of_mem _ hd)]

/-- The pieces of a web URL are a valid spelling. -/
lemma isValid_ofParts (hscheme : IsWebScheme scheme) (hhost : Host.IsName host)
    (hport : IsPort port) :
    Spelling.IsValid ⟨scheme.toList, [], host.toList, port.toList, '/' :: rest.toList⟩ where
  isScheme := hscheme.isScheme
  userinfo_plain := by simp
  userinfo_last := by simp
  host_plain := by
    intro d hd
    rcases List.mem_append.mp hd with hd | hd
    · have hne (e : Char) (hdot : e ≠ '.') (hlabel : Host.isLabelChar e = false) : d ≠ e := by
        rintro rfl
        exact hhost.notMem hdot hlabel hd
      simp [endsAuthority, hne '/' (by decide) rfl, hne '?' (by decide) rfl,
        hne '#' (by decide) rfl, hne '@' (by decide) rfl]
    · exact hport.plain hd
  isHostWithPort := by
    refine .plain ?_ (hhost.notMem (by decide) rfl) ?_
    · intro hopen
      exact hhost.notMem (by decide) rfl (List.mem_of_mem_head? (Option.mem_def.mpr hopen))
    · rcases hport with rfl | ⟨digits, hdigits, -⟩
      · simp
      · simp [hdigits]
  rest_head := by simp [endsAuthority]

/-- **The host of a web URL** is what stands between the scheme and the port or the slash. -/
theorem host?_ofParts (hscheme : IsWebScheme scheme) (hhost : Host.IsName host)
    (hport : IsPort port) :
    host? (scheme ++ "://" ++ host ++ port ++ "/" ++ rest) = some host := by
  have hne : host.toList ≠ [] := hhost.toList_ne_nil
  have hdot : host.toList ≠ ['.'] := by
    intro heq
    have hfront : host.toList = [] ++ '.' :: [] := heq
    exact hhost.front_ne_nil hfront rfl
  have hparts : parts? (scheme ++ "://" ++ host ++ port ++ "/" ++ rest) =
      some ⟨scheme.toList, [], host.toList, port.toList ++ '/' :: rest.toList⟩ :=
    parts?_eq_some_iff.mpr
      ⟨_, isValid_ofParts hscheme hhost hport, by simp [Spelling.text], rfl⟩
  rw [host?, hparts]
  simp [hne, hdot]

/-- A URL with a scheme of the web is one of the web. -/
theorem isWeb_ofScheme (hscheme : IsWebScheme scheme) : isWeb (scheme ++ "://" ++ rest) := by
  have hprefixes : ∀ word ∈ ["http", "https", "ws", "wss"], word ++ "://" ∈ webPrefixes := by
    decide
  obtain ⟨word, hword, heq⟩ := List.mem_map.mp hscheme
  have hlower : (scheme ++ "://").toList.map Char.toLower = (word ++ "://").toList := by
    rw [String.toList_append, String.toList_append, List.map_append, heq]
    rfl
  have hlength : (word ++ "://").toList.length = (scheme ++ "://").toList.length := by
    rw [← hlower, List.length_map]
  refine List.any_eq_true.mpr ⟨word ++ "://", hprefixes word hword, ?_⟩
  rw [beginsWith, String.toList_append (s := scheme ++ "://"), List.take_left' hlength.symm,
    hlower]
  exact beq_self_eq_true _

end TrackerGuard.Url
