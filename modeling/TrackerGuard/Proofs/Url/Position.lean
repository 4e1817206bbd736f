import Mathlib
import TrackerGuard.Proofs.Url.Host

/-!
# Where the host of a URL stands

The host of a URL is given as a text (`host?`) and as a pair of positions in bytes (`hostSpan?`).
Both are read off one cut of the URL, so they agree: the positions are ones between which a text can
be cut out, and cutting there gives the host.

The main statement puts this together with the grammar (`host?_iff_spelling`): a URL has a host
exactly when it is spelled around one that is neither empty nor a full stop, and every spelling
gives its positions.
-/

namespace TrackerGuard.Url

open Text

variable {url host : String} {w : Spelling}

/-! ## Hosts -/

/-- The host of a URL is that of its spelling, unless it is empty or a full stop. -/
lemma host?_eq (h : w.IsValid) (htext : url.toList = w.text) (hhost : w.host = host.toList) :
    host? url = if host = "" ∨ host = "." then none else some host := by
  have hparts : parts? url = some w.parts := parts?_eq_some_iff.mpr ⟨w, h, htext, rfl⟩
  have hempty : (host.toList.isEmpty || decide (host.toList = ['.'])) = true ↔
      host = "" ∨ host = "." := by
    rw [Bool.or_eq_true, List.isEmpty_iff, decide_eq_true_eq, ← String.toList_inj,
      ← String.toList_inj]
    rfl
  rw [host?, hparts]
  simp only [Option.bind_eq_bind, Option.bind_some, Spelling.parts, hhost, hempty,
    String.ofList_toList]

lemma exists_spelling_of_host? (h : host? url = some host) :
    ∃ w : Spelling, w.IsValid ∧ url.toList = w.text := by
  obtain ⟨p, hparts, -⟩ := Option.bind_eq_some_iff.mp h
  obtain ⟨w, hvalid, htext, -⟩ := parts?_eq_some_iff.mp hparts
  exact ⟨w, hvalid, htext⟩

lemma host?_eq_some_iff :
    host? url = some host ↔
      ∃ w : Spelling, w.IsValid ∧ url.toList = w.text ∧ w.host = host.toList ∧
        host ≠ "" ∧ host ≠ "." := by
  constructor
  · intro h
    obtain ⟨w, hvalid, htext⟩ := exists_spelling_of_host? h
    have heq := host?_eq hvalid htext (String.toList_ofList (l := w.host)).symm
    rw [h] at heq
    split_ifs at heq with hnone
    obtain rfl := Option.some.inj heq
    exact ⟨w, hvalid, htext, String.toList_ofList.symm, not_or.mp hnone⟩
  · rintro ⟨w, hvalid, htext, hhost, hne, hdot⟩
    rw [host?_eq hvalid htext hhost, if_neg (not_or.mpr ⟨hne, hdot⟩)]

/-! ## Positions -/

/-- What stands before the host. -/
def Spelling.before (w : Spelling) : List Char := w.scheme ++ "://".toList ++ w.userinfo

/-- Every spelling of a URL gives the positions of its host. -/
lemma hostSpan?_eq (h : w.IsValid) (htext : url.toList = w.text) :
    hostSpan? url = some (utf8Length w.before, utf8Length w.before + utf8Length w.host) := by
  have hparts : parts? url = some w.parts := parts?_eq_some_iff.mpr ⟨w, h, htext, rfl⟩
  have hslashes : utf8Length "://".toList = 3 := rfl
  rw [hostSpan?, hparts]
  simp only [Option.map_some, Spelling.parts, Spelling.before, utf8Length_append, hslashes]

/-- The positions are positions of the URL, in order, and between them stands the host. -/
lemma exists_pos_of_hostSpan? {first last : Nat} (h : hostSpan? url = some (first, last)) :
    ∃ start stop : url.Pos, start ≤ stop ∧ start.offset.byteIdx = first ∧
      stop.offset.byteIdx = last ∧ host? url =
        if String.extract start stop = "" ∨ String.extract start stop = "." then none
        else some (String.extract start stop) := by
  obtain ⟨p, hparts, -⟩ := Option.map_eq_some_iff.mp h
  obtain ⟨w, hvalid, htext, -⟩ := parts?_eq_some_iff.mp hparts
  have hsplit : url = String.ofList w.before ++ String.ofList w.host ++
      String.ofList (w.port ++ w.rest) := by
    rw [← String.toList_inj, htext]
    simp [Spelling.text, Spelling.before]
  obtain ⟨start, stop, hle, hstart, hstop, hextract⟩ := exists_pos_of_append hsplit
  rw [hostSpan?_eq hvalid htext, Option.some_inj, Prod.mk.injEq] at h
  rw [utf8ByteSize_ofList] at hstart hstop
  rw [utf8ByteSize_ofList, h.2] at hstop
  refine ⟨start, stop, hle, hstart.trans h.1, hstop, ?_⟩
  rw [hextract]
  exact host?_eq hvalid htext String.toList_ofList.symm

/-! ## Schemes of the web -/

/-- The scheme of a URL of the web ends where the prefix ends with which it begins. -/
lemma schemeEnd?_of_isWeb (h : isWeb url) :
    ∃ word ∈ webPrefixes, beginsWith word.toList url.toList ∧
      schemeEnd? url = some word.utf8ByteSize := by
  obtain ⟨word, hword, hbegins⟩ := List.any_eq_true.mp h
  refine ⟨word, hword, hbegins, ?_⟩
  have hname : ∀ word ∈ webPrefixes, ∃ name ∈ ["http", "https", "ws", "wss"],
      word.toList = name.toList ++ "://".toList ∧
        word.utf8ByteSize = name.toList.length + 3 := by
    decide
  obtain ⟨name, hname, hletters, hsize⟩ := hname word hword
  have hfront : asciiLower (url.toList.take word.toList.length) = name.toList ++ "://".toList := by
    rw [← hletters]
    exact beq_iff_eq.mp hbegins
  obtain ⟨scheme, slashes, htake, hscheme, hslashes⟩ := List.map_eq_append_iff.mp hfront
  have hplain : ∀ d ∈ "://".toList, d.isAlpha = false := by simp
  obtain rfl : slashes = "://".toList := (asciiLower_eq_iff hplain).mp hslashes
  have hweb : IsWebScheme (String.ofList scheme) := by
    rw [IsWebScheme, String.toList_ofList, hscheme]
    exact List.mem_map_of_mem hname
  have hlength : utf8Length scheme = name.toList.length := by
    rw [← hscheme, List.length_map]
    exact utf8Length_of_isAlpha fun c hc => hweb.isAlpha (by rwa [String.toList_ofList])
  have hsplit : splitScheme? url.toList =
      some (scheme, url.toList.drop word.toList.length) := by
    refine splitScheme?_eq_some_iff.mpr ⟨?_, ?_⟩
    · simpa using hweb.isScheme
    · conv_lhs => rw [← List.take_append_drop word.toList.length url.toList, htake]
      simp
  rw [schemeEnd?, hsplit, hsize, ← hlength]
  rfl

/-! ## The grammar and the positions -/

/-- **A URL has a host exactly when it is spelled around one** that is neither empty nor a full stop,
and every spelling of it gives the bytes up to the start and up to the end of its host.  Any
positions that are given are positions of the text, the first one not behind the second one, and the
host is what can be cut out between them.  The scheme of a URL of the web ends with the prefix with
which the URL begins. -/
theorem host?_iff_spelling (url : String) :
    (∀ host : String, host? url = some host ↔
        ∃ w : Spelling, w.IsValid ∧ url.toList = w.text ∧ w.host = host.toList ∧
          host ≠ "" ∧ host ≠ ".") ∧
      (∀ w : Spelling, w.IsValid → url.toList = w.text →
        hostSpan? url = some (utf8Length w.before, utf8Length w.before + utf8Length w.host)) ∧
      (∀ first last, hostSpan? url = some (first, last) →
        ∃ start stop : url.Pos, start ≤ stop ∧ start.offset.byteIdx = first ∧
          stop.offset.byteIdx = last ∧ host? url =
            if String.extract start stop = "" ∨ String.extract start stop = "." then none
            else some (String.extract start stop)) ∧
      (isWeb url → ∃ word ∈ webPrefixes, beginsWith word.toList url.toList ∧
        schemeEnd? url = some word.utf8ByteSize) := by
  refine ⟨fun host => host?_eq_some_iff, fun w h htext => hostSpan?_eq h htext, ?_, ?_⟩
  · intro first last h
    exact exists_pos_of_hostSpan? h
  · exact schemeEnd?_of_isWeb

/-- The userinfo goes up to the last `@`, and its characters may have more than one byte. -/
example : hostSpan? "wss://ü:p@q@a.b:1/x@y" = some (13, 16) := by decide

end TrackerGuard.Url
