import Mathlib
import TrackerGuard.Proofs.Host.Suffix
import TrackerGuard.Site.Resolver

/-!
# Cutting a host down to its site

The site of a host lies above it.  How many labels are a suffix is decided from the right: a
resolver that finds `k` of them has looked at no more than `k + 1` labels to say so, whether it goes
by the rule of thumb or down a tree with wildcards and exceptions (`suffixLength_take`).  So a
domain between a host and its site has the same site (`site_eq_of_between`), and the site of a site
is itself (`site_site`).

Hosts under a site may belong to other sites, when further suffixes begin there.  By the rule of
thumb none do, as long as the site is more than a suffix (`site_eq_of_within_site`).

Numeric addresses are sites of their own, which is why they stand apart: a domain with four numeric
labels is an address although the hosts under it are none.
-/

namespace TrackerGuard

namespace SuffixTree

/-- A descent keeps what was found before, or finds something where it is. -/
lemma descend_eq_or_le (found passed : Nat) (t : SuffixTree) (labels : List String) :
    descend found passed t labels = found ∨ passed ≤ descend found passed t labels := by
  induction labels generalizing t found passed with
  | nil => exact .inl rfl
  | cons label labels ih =>
      rw [descend]
      cases t.next? label with
      | none => exact .inl rfl
      | some next =>
          cases hmark : next.mark? with
          | none =>
              rcases ih found (passed + 1) next with heq | hle
              · exact .inl (by simpa [hmark] using heq)
              · exact .inr (by simpa [hmark] using Nat.le_of_succ_le hle)
          | some mark =>
              right
              cases mark with
              | suffix =>
                  have hle := ih (passed + 1) (passed + 1) next
                  simp only [hmark]
                  omega
              | exception => simp [hmark]

variable {found passed n : Nat} {labels : List String}

/-- A descent that finds a suffix has not looked further than one label behind it. -/
lemma descend_take {t : SuffixTree} (h : descend found passed t labels < passed + n) :
    descend found passed t (labels.take n) = descend found passed t labels := by
  induction labels generalizing t found passed n with
  | nil => rw [List.take_nil]
  | cons label labels ih =>
      cases n with
      | zero =>
          rcases descend_eq_or_le found passed t (label :: labels) with heq | hle
          · rw [heq]
            rfl
          · omega
      | succ n =>
          rw [List.take_succ_cons, descend, descend]
          rw [descend] at h
          cases hnext : t.next? label with
          | none => rfl
          | some next =>
              simp only [hnext] at h
              cases hmark : next.mark? with
              | none =>
                  simp only [hmark] at h ⊢
                  exact ih (by omega)
              | some mark =>
                  cases mark with
                  | suffix =>
                      simp only [hmark] at h ⊢
                      exact ih (by omega)
                  | exception => simp only [hmark]

lemma suffixLength_take {t : SuffixTree} (h : t.suffixLength labels < n) :
    t.suffixLength (labels.take n) = t.suffixLength labels := by
  cases labels with
  | nil => rw [List.take_nil]
  | cons label labels =>
      cases n with
      | zero => exact absurd h (Nat.not_lt_zero _)
      | succ n =>
          rw [List.take_succ_cons, suffixLength, suffixLength]
          rw [suffixLength] at h
          cases hchild : t.child? label with
          | none => rfl
          | some child =>
              simp only [hchild] at h
              exact descend_take (by omega)

end SuffixTree

namespace Resolver

variable {labels : List String} {n : Nat}

lemma usualLength_take (h : usualLength labels < n) :
    usualLength (labels.take n) = usualLength labels := by
  match labels, n with
  | [], n => rw [List.take_nil]
  | [label], 0 => exact absurd h (Nat.not_lt_zero _)
  | [label], n + 1 => rw [List.take_succ_cons, List.take_nil]
  | last :: second :: rest, 0 => exact absurd h (Nat.not_lt_zero _)
  | last :: second :: rest, 1 =>
      rw [usualLength] at h
      split at h <;> omega
  | last :: second :: rest, n + 2 => rfl

/-- The suffix of a host is decided by its labels and the one in front of it. -/
lemma suffixLength_take (r : Resolver) (h : r.suffixLength labels < n) :
    r.suffixLength (labels.take n) = r.suffixLength labels := by
  cases r with
  | builtIn => exact usualLength_take h
  | rules tree => exact SuffixTree.suffixLength_take h

variable {host domain : String}

lemma site_of_isAddress (r : Resolver) (h : Host.isAddress host) : r.site host = host := by
  rw [site, if_pos h]

/-- The labels of the site of a name: those of its suffix and one more. -/
lemma labels_site (r : Resolver) (h : ¬ Host.isAddress host) :
    Host.labels (r.site host) =
      ((Host.labels host).reverse.take
        (r.suffixLength (Host.labels host).reverse + 1)).reverse := by
  have hprefix := List.take_prefix (r.suffixLength (Host.labels host).reverse + 1)
    (Host.labels host).reverse
  rw [← List.reverse_suffix, List.reverse_reverse] at hprefix
  rw [site, if_neg h]
  refine Host.labels_ofLabels_of_suffix ?_ hprefix
  simp [Host.labels_ne_nil]

/-- The site of a host lies above it. -/
theorem within_site (r : Resolver) (host : String) : Host.Within host (r.site host) := by
  by_cases haddress : Host.isAddress host
  · rw [r.site_of_isAddress haddress]
  · rw [Host.within_iff_labels_suffix, r.labels_site haddress, ← List.reverse_prefix,
      List.reverse_reverse]
    exact List.take_prefix _ _

/-- Domains between a host and its site have the same site. -/
theorem site_eq_of_between (r : Resolver) (hhost : ¬ Host.isAddress host)
    (hdomain : ¬ Host.isAddress domain) (hwithin : Host.Within host domain)
    (hsite : Host.Within domain (r.site host)) : r.site domain = r.site host := by
  have hprefix : (Host.labels domain).reverse <+: (Host.labels host).reverse :=
    List.reverse_prefix.mpr (Host.within_iff_labels_suffix.mp hwithin)
  have htake := List.prefix_iff_eq_take.mp hprefix
  have hlength := (Host.within_iff_labels_suffix.mp hsite).length_le
  rw [r.labels_site hhost] at hlength
  simp only [List.length_reverse, List.length_take] at hlength htake
  by_cases hall : (Host.labels host).length ≤ (Host.labels domain).length
  · have heq : Host.labels domain = Host.labels host :=
      (Host.within_iff_labels_suffix.mp hwithin).eq_of_length_le hall
    rw [← Host.ofLabels_labels domain, heq, Host.ofLabels_labels]
  · have hlt : r.suffixLength (Host.labels host).reverse < (Host.labels domain).length := by
      omega
    have hsame : r.suffixLength (Host.labels domain).reverse =
        r.suffixLength (Host.labels host).reverse := by
      rw [htake]
      exact r.suffixLength_take hlt
    have hlabels : Host.labels (r.site domain) = Host.labels (r.site host) := by
      rw [r.labels_site hdomain, r.labels_site hhost, hsame, htake, List.take_take]
      congr 2
      omega
    rw [← Host.ofLabels_labels (r.site domain), hlabels, Host.ofLabels_labels]

/-- By the rule of thumb more labels in front do not change a suffix that is not the whole host. -/
lemma usualLength_append {front : List String} (h : usualLength labels < labels.length) :
    usualLength (labels ++ front) = usualLength labels := by
  match labels with
  | [] => exact absurd h (Nat.not_lt_zero _)
  | [label] => exact absurd h (Nat.lt_irrefl _)
  | last :: second :: rest => rfl

/-- By the rule of thumb all hosts under the site of a host that is longer than its suffix have that
site. -/
theorem site_eq_of_within_site (hdomain : ¬ Host.isAddress domain)
    (hlong : usualLength (Host.labels domain).reverse < (Host.labels domain).length)
    (hhost : ¬ Host.isAddress host) (hwithin : Host.Within host (builtIn.site domain)) :
    builtIn.site host = builtIn.site domain := by
  let suffix := usualLength (Host.labels domain).reverse
  let site := (Host.labels domain).reverse.take (suffix + 1)
  have hsite : Host.labels (builtIn.site domain) = site.reverse := builtIn.labels_site hdomain
  have hlength : site.length = suffix + 1 := by
    rw [List.length_take, List.length_reverse, Nat.min_eq_left hlong]
  have hsuffix : usualLength site = suffix := usualLength_take (Nat.lt_succ_self suffix)
  have hprefix : site <+: (Host.labels host).reverse := by
    rw [← List.reverse_suffix, List.reverse_reverse, ← hsite]
    exact Host.within_iff_labels_suffix.mp hwithin
  obtain ⟨front, hfront⟩ := hprefix
  have hsame : usualLength (Host.labels host).reverse = suffix := by
    rw [← hfront, usualLength_append (by omega), hsuffix]
  have hlabels : Host.labels (builtIn.site host) = Host.labels (builtIn.site domain) := by
    rw [builtIn.labels_site hhost, suffixLength, hsame, ← hfront, ← hlength, List.take_left', hsite]
    rfl
  rw [← Host.ofLabels_labels (builtIn.site host), hlabels, Host.ofLabels_labels]

/-- The site of a site is itself. -/
theorem site_site (r : Resolver) (host : String) : r.site (r.site host) = r.site host := by
  by_cases hhost : Host.isAddress host
  · rw [r.site_of_isAddress hhost, r.site_of_isAddress hhost]
  · by_cases hsite : Host.isAddress (r.site host)
    · exact r.site_of_isAddress hsite
    · exact r.site_eq_of_between hhost hsite (r.within_site host) (.refl _)

end Resolver

end TrackerGuard
