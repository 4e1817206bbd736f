import Mathlib
import TrackerGuard.Proofs.Host.Normal
import TrackerGuard.Proofs.Site.Cut
import TrackerGuard.Proofs.Site.Walk

/-!
# The walk step by step

Each step of the walk up from a host visits one domain and goes on to its parent.  The steps visit
what `Host.suffixes` lists, in that order, and after the last of these domains nothing any more
(`Walk.visit?_eq`): a step takes the first domain off those that are still to be visited
(`Walk.rest_of_not_isOver`), also where the parent has too few bytes and the walk ends by being at no
domain at all.

On the way the bytes become fewer (`pairwise_suffixes`), so no domain is visited twice.  A walk down
to the site of a host that is its own normal form begins at the host and ends at the site, because the
site lies above the host and is not empty (`head?_suffixes`, `getLast?_suffixes`).
-/

namespace TrackerGuard.Host

open Text

section Order

variable {host parent : List Char} {shortest : ℕ}

lemma utf8Length_lt_of_parentOf? (h : parentOf? host = some parent) :
    utf8Length parent < utf8Length host := by
  obtain ⟨-, label, -, rfl⟩ := parentOf?_eq_some_iff.mp h
  exact utf8Length_lt_append_cons label '.' parent

lemma pairwise_suffixesFrom :
    (suffixesFrom shortest host).Pairwise fun t u => utf8Length u < utf8Length t := by
  fun_induction suffixesFrom shortest host with
  | case1 host hstop => exact .nil
  | case2 host hgo hparent => exact List.pairwise_singleton _ host
  | case3 host hgo parent hparent ih =>
      refine List.pairwise_cons.mpr ⟨fun t ht => ?_, ih⟩
      obtain ⟨-, -, hbehind⟩ := mem_suffixesFrom_iff.mp ht
      exact (utf8Length_le_of_behind_dot hbehind).trans_lt (utf8Length_lt_of_parentOf? hparent)

end Order

/-- From one domain to the next, the bytes become fewer. -/
lemma pairwise_suffixes (host site : String) :
    (suffixes host site).Pairwise fun d e => utf8Length e.toList < utf8Length d.toList := by
  rw [suffixes, List.pairwise_map]
  simpa using pairwise_suffixesFrom

lemma nodup_suffixes (host site : String) : (suffixes host site).Nodup := by
  refine (pairwise_suffixes host site).imp ?_
  rintro d e hlt rfl
  exact lt_irrefl _ hlt

/-! ## Steps -/

namespace Walk

variable {w : Walk}

/-- What a walk still has to visit. -/
def rest (w : Walk) : List String := (suffixesFrom w.shortest w.current).map String.ofList

lemma rest_start (host site : String) : (start host site).rest = suffixes host site := rfl

lemma rest_of_isOver (h : w.isOver) : w.rest = [] := by
  rw [isOver] at h
  rw [rest, suffixesFrom, if_pos h, List.map_nil]

/-- The domain where a walk is comes first, and behind it what is left when the walk has advanced. -/
lemma rest_of_not_isOver (h : ¬ w.isOver) :
    w.rest = String.ofList w.current :: w.advance.rest := by
  have hnowhere : suffixesFrom w.shortest [] = [] := by
    rw [suffixesFrom]
    rfl
  rw [isOver] at h
  rw [rest, suffixesFrom, if_neg h, rest, advance]
  split
  next hparent => simp [hparent, hnowhere]
  next parent hparent =>
    by_cases hlong : w.shortest ≤ utf8Length parent
    · simp [hparent, Option.filter_some, hlong]
    · have hshort : suffixesFrom w.shortest parent = [] := by
        rw [suffixesFrom, if_pos (by simp [Nat.lt_of_not_le hlong])]
      simp [hparent, Option.filter_some, hlong, hshort, hnowhere]

lemma next_fst (w : Walk) : w.next.1 = w.rest.head? := by
  by_cases h : w.isOver
  · rw [next, if_pos h, rest_of_isOver h, List.head?_nil]
  · rw [next, if_neg h, rest_of_not_isOver h, List.head?_cons]

lemma rest_next (w : Walk) : w.next.2.rest = w.rest.tail := by
  by_cases h : w.isOver
  · rw [next, if_pos h, rest_of_isOver h, List.tail_nil]
  · rw [next, if_neg h, rest_of_not_isOver h, List.tail_cons]

/-- The steps visit what is still to be visited, one after another, and then nothing. -/
theorem visit?_eq (w : Walk) (n : ℕ) : w.visit? n = w.rest[n]? := by
  induction n generalizing w with
  | zero => rw [visit?, next_fst, List.head?_eq_getElem?]
  | succ n ih => rw [visit?, ih, rest_next, List.getElem?_tail]

end Walk

/-! ## Where the walk begins and ends -/

variable {host site : String}

/-- Down to a site above the host, the walk begins at the host. -/
lemma head?_suffixes (hne : host ≠ "") (hsite : Within host site) :
    (suffixes host site).head? = some host := by
  have hlong : ¬ utf8Length host.toList < utf8Length site.toList := hsite.utf8Length_le.not_gt
  have hgo : ¬ (Walk.start host site).isOver := by
    simp [Walk.isOver, Walk.start, hne, hlong]
  rw [← Walk.rest_start, Walk.rest_of_not_isOver hgo, List.head?_cons, Walk.start,
    String.ofList_toList]

/-- Down to a site above the host, the walk ends at the site. -/
lemma getLast?_suffixes (hne : site ≠ "") (hsite : Within host site) :
    (suffixes host site).getLast? = some site := by
  have hmem : site ∈ suffixes host site :=
    (mem_suffixes_iff_between hsite).mpr ⟨hne, hsite, .refl site⟩
  obtain ⟨front, back, hsuffixes⟩ := List.append_of_mem hmem
  cases back with
  | nil => rw [hsuffixes, List.getLast?_concat]
  | cons domain back =>
      -- What comes behind the site has fewer bytes, and such a domain is not visited.
      have horder := pairwise_suffixes host site
      rw [hsuffixes, List.pairwise_append, List.pairwise_cons] at horder
      obtain ⟨-, ⟨hbehind, -⟩, -⟩ := horder
      have hshorter : utf8Length domain.toList < utf8Length site.toList :=
        hbehind domain List.mem_cons_self
      have hdomain : domain ∈ suffixes host site := by simp [hsuffixes]
      obtain ⟨-, hlonger, -⟩ := mem_suffixes_iff.mp hdomain
      omega

/-- **The walk is complete and ends.**  Step by step it visits the domains that `suffixes` lists, and
nothing after them.  They have fewer and fewer bytes, so none is there twice, and they are the host
and what stands behind its full stops, as far as that is not empty and has no fewer bytes than the
site.  From a host in normal form down to its own site, the host is the first and the site is the
last of them. -/
theorem walk_is_complete (r : Resolver) (host site : String) :
    (∀ n, (Walk.start host site).visit? n = (suffixes host site)[n]?) ∧
      ((suffixes host site).Pairwise fun d e => utf8Length e.toList < utf8Length d.toList) ∧
      (suffixes host site).Nodup ∧
      (∀ domain, domain ∈ suffixes host site ↔
        domain ≠ "" ∧ utf8Length site.toList ≤ utf8Length domain.toList ∧ Within host domain) ∧
      (host ≠ "" → normalize host = host → site = r.registrable host →
        (suffixes host site).head? = some host ∧ (suffixes host site).getLast? = some site) := by
  refine ⟨fun n => ?_, pairwise_suffixes host site, nodup_suffixes host site,
    fun domain => mem_suffixes_iff, ?_⟩
  · rw [Walk.visit?_eq, Walk.rest_start]
  · intro hne hnormal hsite
    have hwithin : Within (normalize host) site := by
      rw [hsite, Resolver.registrable]
      exact r.within_site (normalize host)
    have hnamed : site ≠ "" := ne_empty_of_within_normalize (by rwa [hnormal]) hwithin
    rw [hnormal] at hwithin
    exact ⟨head?_suffixes hne hwithin, getLast?_suffixes hnamed hwithin⟩

/-- Full stops behind one another make a site that begins with one, and the walk ends there. -/
theorem walk_is_complete_at_dotted_site :
    "é.a..co.uk" ≠ "" ∧ normalize "é.a..co.uk" = "é.a..co.uk" ∧
      ".co.uk" = Resolver.builtIn.registrable "é.a..co.uk" ∧
      (suffixes "é.a..co.uk" ".co.uk").head? = some "é.a..co.uk" ∧
      (suffixes "é.a..co.uk" ".co.uk").getLast? = some ".co.uk" := by
  have hne : "é.a..co.uk" ≠ "" := by decide
  have hnormal : normalize "é.a..co.uk" = "é.a..co.uk" := by decide +kernel
  have hsite : ".co.uk" = Resolver.builtIn.registrable "é.a..co.uk" := by decide +kernel
  obtain ⟨-, -, -, -, hends⟩ := walk_is_complete .builtIn "é.a..co.uk" ".co.uk"
  exact ⟨hne, hnormal, hsite, hends hne hnormal hsite⟩

example : suffixes "é..b.." "b" = ["é..b..", ".b..", "b..", "."] := by cbv

end TrackerGuard.Host
