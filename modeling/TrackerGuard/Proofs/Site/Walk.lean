import Mathlib
import TrackerGuard.Proofs.Host.Suffix
import TrackerGuard.Site.Walk

/-!
# What the walk up from a host visits

The walk goes from parent to parent and stops at a number of bytes.  It visits exactly the domains
above the host that have as many bytes (`mem_suffixes_iff`), whatever the host is made of, because
each parent is what follows the first full stop and so none is left out.

Down to the site of the host, the domains visited are those between the two
(`mem_suffixes_iff_between`).
-/

namespace TrackerGuard.Host

variable {host parent t : List Char} {shortest : Nat}

/-- The parent of a host is what follows its first full stop. -/
lemma parentOf?_eq_some_iff :
    parentOf? host = some parent ↔
      parent ≠ [] ∧ ∃ label, '.' ∉ label ∧ host = label ++ '.' :: parent := by
  have hcut : host.takeWhile (· != '.') ++ host.dropWhile (· != '.') = host :=
    List.takeWhile_append_dropWhile
  have hlabel : '.' ∉ host.takeWhile (· != '.') := by
    intro hmem
    simpa using List.mem_takeWhile_imp hmem
  constructor
  · intro h
    unfold parentOf? at h
    split at h
    next dot c cs hdrop =>
      cases h
      have hdot : dot = '.' := by
        have hhead := List.head?_dropWhile_not (· != '.') host
        rw [hdrop] at hhead
        simpa using hhead
      rw [hdrop, hdot] at hcut
      exact ⟨List.cons_ne_nil c cs, _, hlabel, hcut.symm⟩
    next => cases h
  · rintro ⟨hne, label, hdot, rfl⟩
    obtain ⟨c, cs, rfl⟩ := List.exists_cons_of_ne_nil hne
    have hdrop : (label ++ '.' :: c :: cs).dropWhile (· != '.') = '.' :: c :: cs := by
      rw [List.dropWhile_append_of_pos]
      · simp
      · intro d hd
        have hd' : d ≠ '.' := fun heq => hdot (heq ▸ hd)
        simpa using hd'
    unfold parentOf?
    rw [hdrop]

/-- What stands behind a full stop of a host is its parent or stands behind a full stop of it. -/
lemma behind_dot_iff (hparent : parentOf? host = some parent) (ht : t ≠ []) :
    (∃ front, host = front ++ '.' :: t) ↔ parent = t ∨ ∃ front, parent = front ++ '.' :: t := by
  obtain ⟨-, label, hlabel, rfl⟩ := parentOf?_eq_some_iff.mp hparent
  constructor
  · rintro ⟨front, hfront⟩
    rcases Text.cut_eq_or_later hlabel hfront with ⟨-, rfl⟩ | ⟨m, -, hm⟩
    · exact .inl rfl
    · exact .inr ⟨m, hm⟩
  · rintro (rfl | ⟨front, rfl⟩)
    · exact ⟨label, rfl⟩
    · exact ⟨label ++ '.' :: front, by simp⟩

/-- A host without a parent has nothing behind its full stops, unless it ends there. -/
lemma not_behind_dot (hparent : parentOf? host = none) (ht : t ≠ []) :
    ¬ ∃ front, host = front ++ '.' :: t := by
  rintro ⟨front, rfl⟩
  have hdot : '.' ∈ front ++ '.' :: t := by simp
  obtain ⟨label, rest, hhost, hlabel⟩ := List.eq_append_cons_of_mem hdot
  have hrest : rest ≠ [] := by
    rcases Text.cut_eq_or_later hlabel hhost.symm with ⟨-, rfl⟩ | ⟨m, -, rfl⟩
    · exact ht
    · simp
  have hsome := parentOf?_eq_some_iff.mpr ⟨hrest, label, hlabel, hhost⟩
  rw [hparent] at hsome
  cases hsome

/-- What stands behind a full stop of a host has no more bytes than the host. -/
lemma utf8Length_le_of_behind_dot (h : host = t ∨ ∃ front, host = front ++ '.' :: t) :
    Text.utf8Length t ≤ Text.utf8Length host := by
  rcases h with rfl | ⟨front, rfl⟩
  · exact le_rfl
  · exact (Text.utf8Length_lt_append_cons front '.' t).le

/-- The walk visits the host and what stands behind its full stops, as long as there are enough
bytes. -/
theorem mem_suffixesFrom_iff :
    t ∈ suffixesFrom shortest host ↔
      t ≠ [] ∧ shortest ≤ Text.utf8Length t ∧ (host = t ∨ ∃ front, host = front ++ '.' :: t) := by
  fun_induction suffixesFrom shortest host with
  | case1 host hstop =>
      simp only [List.not_mem_nil, false_iff]
      rintro ⟨hne, hle, hat⟩
      simp only [Bool.or_eq_true, List.isEmpty_iff, decide_eq_true_eq] at hstop
      rcases hstop with rfl | hshort
      · rcases hat with rfl | ⟨front, hfront⟩
        · exact hne rfl
        · simp at hfront
      · have hbytes := utf8Length_le_of_behind_dot hat
        omega
  | case2 host hgo hparent =>
      simp only [Bool.or_eq_true, List.isEmpty_iff, decide_eq_true_eq, not_or, not_lt] at hgo
      rw [List.mem_singleton]
      constructor
      · rintro rfl
        exact ⟨hgo.1, hgo.2, .inl rfl⟩
      · rintro ⟨hne, -, rfl | hbehind⟩
        · rfl
        · exact absurd hbehind (not_behind_dot hparent hne)
  | case3 host hgo parent hparent ih =>
      simp only [Bool.or_eq_true, List.isEmpty_iff, decide_eq_true_eq, not_or, not_lt] at hgo
      rw [List.mem_cons]
      constructor
      · rintro (rfl | hmem)
        · exact ⟨hgo.1, hgo.2, .inl rfl⟩
        · obtain ⟨hne, hle, hat⟩ := ih.mp hmem
          exact ⟨hne, hle, .inr ((behind_dot_iff hparent hne).mpr hat)⟩
      · rintro ⟨hne, hle, rfl | hbehind⟩
        · exact .inl rfl
        · exact .inr (ih.mpr ⟨hne, hle, (behind_dot_iff hparent hne).mp hbehind⟩)

variable {name domain site : String}

/-- The walk from a host visits the domains above it that are not empty and have no fewer bytes than
the site. -/
theorem mem_suffixes_iff :
    domain ∈ suffixes name site ↔
      domain ≠ "" ∧ Text.utf8Length site.toList ≤ Text.utf8Length domain.toList ∧
        Within name domain := by
  rw [suffixes, List.mem_map]
  constructor
  · rintro ⟨t, ht, rfl⟩
    obtain ⟨hne, hle, hat⟩ := mem_suffixesFrom_iff.mp ht
    refine ⟨by simpa using hne, by simpa using hle, ?_⟩
    rcases hat with heq | ⟨front, hfront⟩
    · left
      simp [← heq]
    · exact .inr ⟨front, by simpa using hfront⟩
  · rintro ⟨hne, hle, hwithin⟩
    refine ⟨domain.toList, mem_suffixesFrom_iff.mpr ⟨by simpa using hne, hle, ?_⟩, by simp⟩
    rcases hwithin with rfl | hbehind
    · exact .inl rfl
    · exact .inr hbehind

/-- Down to a site above the host, the walk visits what lies between the two. -/
theorem mem_suffixes_iff_between (hsite : Within name site) :
    domain ∈ suffixes name site ↔ domain ≠ "" ∧ Within name domain ∧ Within domain site := by
  rw [mem_suffixes_iff]
  constructor
  · rintro ⟨hne, hle, hwithin⟩
    exact ⟨hne, hwithin, (hwithin.iff_utf8Length_le hsite).mpr hle⟩
  · rintro ⟨hne, hwithin, hbetween⟩
    exact ⟨hne, (hwithin.iff_utf8Length_le hsite).mp hbetween, hwithin⟩

end TrackerGuard.Host
