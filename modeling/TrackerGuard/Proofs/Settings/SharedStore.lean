import Mathlib
import TrackerGuard.Settings.Features
import TrackerGuard.Proofs.Settings.Flag
import TrackerGuard.Proofs.Settings.WriteThrough

/-!
# Flags and safelist in one store

The flags and the safelist are kept in the same store, each under a key of its own.  An operation
writes under its own key only (`get?_perform_of_ne`), and one that fails changes nothing at all
(`unchanged_of_error`).  So the value of a flag is a matter of the operations on this flag that did
not fail: it is what was written last since it was last reset, whatever happened to the other flags,
to the safelist and under other keys in the meantime (`isOn_run`).

Of the store it is asked that its operations do what they say, or nothing when they fail.
-/

namespace TrackerGuard.Settings

/-- What a program does to its settings. -/
inductive Operation where
  /-- A flag is changed. -/
  | flag (f : Flag) (c : Flag.Change)
  /-- The safelist is changed. -/
  | safelist (c : Safelist.Change)
  deriving DecidableEq, Repr

/-- The key under which an operation writes. -/
def Operation.key : Operation → String
  | .flag f _ => f.key
  | .safelist _ => Safelist.key

lemma key_flag_ne_key_safelist (f : Flag) : f.key ≠ Safelist.key := by
  cases f <;> decide

/-- An operation and what it was answered. -/
abbrev Event := Operation × Except StoreError (Option Bool)

variable {op : Operation} {f : Flag} {k : String} {e : StoreError}

/-! ## What an operation says about a flag -/

/-- The truth value that was written to a flag when it was set or toggled. -/
def written? (f : Flag) : Event → Option Bool
  | (.flag g (.set enabled), .ok _) => if g = f then some enabled else none
  | (.flag g .toggle, .ok enabled) => if g = f then enabled else none
  | _ => none

/-- Whether a flag was reset. -/
def isReset (f : Flag) : Event → Bool
  | (.flag g .reset, .ok _) => g = f
  | _ => false

lemma written?_error (f : Flag) (op : Operation) (e : StoreError) :
    written? f (op, .error e) = none := by
  rcases op with ⟨g, _ | _ | _⟩ | _ <;> rfl

lemma isReset_error (f : Flag) (op : Operation) (e : StoreError) :
    isReset f (op, .error e) = false := by
  rcases op with ⟨g, _ | _ | _⟩ | _ <;> rfl

/-- Operations under other keys neither write to a flag nor reset it. -/
lemma written?_of_key_ne (h : op.key ≠ f.key) (answer : Except StoreError (Option Bool)) :
    written? f (op, answer) = none := by
  cases answer with
  | error e => exact written?_error f op e
  | ok answer =>
      rcases op with ⟨g, _ | _ | _⟩ | _
      · exact if_neg fun heq => h (congrArg Flag.key heq)
      · exact if_neg fun heq => h (congrArg Flag.key heq)
      · rfl
      · rfl

lemma isReset_of_key_ne (h : op.key ≠ f.key) (answer : Except StoreError (Option Bool)) :
    isReset f (op, answer) = false := by
  cases answer with
  | error e => exact isReset_error f op e
  | ok answer =>
      rcases op with ⟨g, _ | _ | _⟩ | _
      · rfl
      · rfl
      · exact decide_eq_false fun heq => h (congrArg Flag.key heq)
      · rfl

/-- The value that a flag has after a history, when this was stored under its key before: what was
written last since it was last reset; or else the default, if it was reset; or else what was
stored. -/
def expected (f : Flag) (stored : Option Json) (history : List Event) : Bool :=
  ((history.rtakeWhile fun event => !isReset f event).filterMap (written? f)).getLast?.getD
    (if history.any (isReset f) then f.default else f.valueOf stored)

/-- An event resets a flag, writes to it or leaves it alone. -/
lemma expected_concat (f : Flag) (stored : Option Json) (history : List Event) (event : Event) :
    expected f stored (history ++ [event]) =
      if isReset f event then f.default
      else (written? f event).getD (expected f stored history) := by
  rw [expected, List.any_append, List.any_cons, List.any_nil, Bool.or_false]
  cases hreset : isReset f event with
  | true =>
      rw [List.rtakeWhile_concat_neg _ _ _ (by simp [hreset]), Bool.or_true]
      rfl
  | false =>
      rw [List.rtakeWhile_concat_pos _ _ _ (by simp [hreset]), List.filterMap_append, Bool.or_false]
      cases hwritten : written? f event with
      | none =>
          rw [List.filterMap_cons_none hwritten, List.filterMap_nil, List.append_nil]
          rfl
      | some enabled =>
          rw [List.filterMap_cons_some hwritten, List.filterMap_nil, List.getLast?_concat]
          rfl

/-! ## Many operations -/

variable {σ : Type} [SettingsStore σ] {s after : Safelist σ}

/-- What an operation comes to: its answer, and the safelist after it.  The flags are in the store of
the safelist. -/
def perform (s : Safelist σ) : Operation → Except StoreError (Option Bool) × Safelist σ
  | .flag f c => ((f.ask s.store c).1, { s with store := (f.ask s.store c).2 })
  | .safelist c => ((s.ask c).1.map some, (s.ask c).2)

/-- The safelist after operations, one after another, whether they failed or not. -/
def run (s : Safelist σ) (ops : List Operation) : Safelist σ :=
  ops.foldl (fun s op => (perform s op).2) s

/-- The operations with what each of them was answered. -/
def history (s : Safelist σ) : List Operation → List Event
  | [] => []
  | op :: ops => (op, (perform s op).1) :: history (perform s op).2 ops

lemma run_concat (s : Safelist σ) (ops : List Operation) (op : Operation) :
    run s (ops ++ [op]) = (perform (run s ops) op).2 := by
  simp [run]

lemma history_concat (s : Safelist σ) (ops : List Operation) (op : Operation) :
    history s (ops ++ [op]) = history s ops ++ [(op, (perform (run s ops) op).1)] := by
  induction ops generalizing s with
  | nil => rfl
  | cons first ops ih =>
      rw [List.cons_append, history, ih, history, List.cons_append]
      rfl

lemma isProper_perform (h : s.IsProper) (op : Operation) : (perform s op).2.IsProper := by
  cases op with
  | flag f c => exact ⟨h.ascending, h.not_mem_empty⟩
  | safelist c =>
      have hchange := h.change c
      rwa [Safelist.change_eq_ask] at hchange

lemma isProper_run (h : s.IsProper) (ops : List Operation) : (run s ops).IsProper := by
  induction ops using List.reverseRecOn with
  | nil => exact h
  | append_singleton ops op ih =>
      rw [run_concat]
      exact isProper_perform ih op

/-! ## What an operation changes -/

variable [LawfulStore σ]

/-- An operation writes under its own key only. -/
lemma get?_perform_of_ne (s : Safelist σ) (h : op.key ≠ k) :
    SettingsStore.get? (perform s op).2.store k = SettingsStore.get? s.store k := by
  cases op with
  | flag f c =>
      have hkey : f.key ≠ k := h
      rcases f.ask_cases s.store c with ⟨after, hask, hget⟩ | ⟨e, after, hask, hget⟩
      · rw [perform, hask, hget, if_neg hkey]
      · rw [perform, hask, hget]
  | safelist c =>
      have hkey : Safelist.key ≠ k := h
      rw [perform, ← Safelist.change_eq_ask]
      rcases s.store_change_cases c with hsame | ⟨sites, hset⟩
      · rw [hsame]
      · rw [hset]
        rcases hwritten : SettingsStore.set s.store Safelist.key (.texts sites) with
          ⟨e | ⟨⟨⟩⟩, after⟩
        · exact LawfulStore.get?_set_error hwritten k
        · rw [LawfulStore.get?_set hwritten, if_neg hkey]

/-- An operation that fails changes nothing. -/
lemma unchanged_of_error (hs : s.IsProper) (h : perform s op = (.error e, after)) :
    after.sites = s.sites ∧ ∀ k, SettingsStore.get? after.store k = SettingsStore.get? s.store k := by
  cases op with
  | flag f c =>
      obtain ⟨hanswer, rfl⟩ := Prod.mk.inj h
      refine ⟨rfl, ?_⟩
      rcases f.ask_cases s.store c with ⟨after, hask, -⟩ | ⟨e, after, hask, hget⟩
      · rw [hask] at hanswer
        cases hanswer
      · rwa [hask]
  | safelist c =>
      obtain ⟨hanswer, rfl⟩ := Prod.mk.inj h
      refine Safelist.unchanged_of_ask hs rfl ?_
      intro hdone
      rw [hdone] at hanswer
      cases hanswer

/-- What is done under other keys is nothing to a flag. -/
lemma isOn_perform_of_ne (s : Safelist σ) (h : op.key ≠ f.key) :
    f.isOn (perform s op).2.store = f.isOn s.store := by
  rw [f.isOn_eq_valueOf, get?_perform_of_ne s h, ← f.isOn_eq_valueOf]

/-- A flag has its default when it was reset, the value that was written to it, or the one it had. -/
lemma isOn_perform (s : Safelist σ) (op : Operation) (f : Flag) :
    f.isOn (perform s op).2.store =
      if isReset f (op, (perform s op).1) then f.default
      else (written? f (op, (perform s op).1)).getD (f.isOn s.store) := by
  by_cases hkey : op.key = f.key
  · cases op with
    | safelist c => exact absurd hkey.symm (key_flag_ne_key_safelist f)
    | flag g c =>
        obtain rfl : g = f := Flag.key_injective hkey
        rcases g.ask_cases s.store c with ⟨after, hask, hget⟩ | ⟨e, after, hask, hget⟩
        · have hvalue : g.isOn after = (c.left? (g.isOn s.store)).getD g.default := by
            rw [g.isOn_eq_valueOf, hget, if_pos rfl, g.valueOf_map_bool]
          simp only [perform, hask, hvalue]
          cases c <;> simp [isReset, written?, Flag.Change.left?, Flag.Change.answer?]
        · have hvalue : g.isOn after = g.isOn s.store := by
            rw [g.isOn_eq_valueOf, hget, ← g.isOn_eq_valueOf]
          simp only [perform, hask, hvalue, isReset_error, written?_error]
          rfl
  · rw [isReset_of_key_ne hkey, written?_of_key_ne hkey, isOn_perform_of_ne s hkey]
    rfl

/-- After every run a flag has the value that its history says. -/
lemma isOn_run (s : Safelist σ) (ops : List Operation) (f : Flag) :
    f.isOn (run s ops).store = expected f (SettingsStore.get? s.store f.key) (history s ops) := by
  induction ops using List.reverseRecOn with
  | nil => rfl
  | append_singleton ops op ih =>
      rw [run_concat, isOn_perform, ih, history_concat, expected_concat]

/-- **Flags and safelist do not disturb each other.**  Whatever was stored and however operations
went since then, each flag has the value that its own history says, and the features are these
values.  A toggled flag is answered with the opposite of its value, which is stored; an operation
that fails changes nothing.  A change of a flag touches neither the sites nor another flag, a change
of the safelist touches no flag, and what is stored under other keys stays. -/
theorem flags_and_safelist_apart {store : σ} {resolver : Resolver} {ops : List Operation}
    (hrun : run (Safelist.load store resolver) ops = s) :
    (∀ f : Flag, f.isOn s.store = expected f (SettingsStore.get? store f.key)
      (history (Safelist.load store resolver) ops)) ∧
    (∀ (f : Flag) answer after, perform s (.flag f .toggle) = (.ok answer, after) →
      answer = some (!f.isOn s.store) ∧
        SettingsStore.get? after.store f.key = some (.bool !f.isOn s.store)) ∧
    (∀ op e after, perform s op = (.error e, after) →
      after.sites = s.sites ∧
        ∀ k, SettingsStore.get? after.store k = SettingsStore.get? s.store k) ∧
    (∀ f c, (perform s (.flag f c)).2.sites = s.sites ∧
      ∀ g : Flag, g ≠ f → g.isOn (perform s (.flag f c)).2.store = g.isOn s.store) ∧
    (∀ c (f : Flag), f.isOn (perform s (.safelist c)).2.store = f.isOn s.store) ∧
    (∀ op k, k ≠ Safelist.key → (∀ f : Flag, k ≠ f.key) →
      SettingsStore.get? (perform s op).2.store k = SettingsStore.get? s.store k) ∧
    Features.ofStore s.store =
      { blockRequests := Flag.blockRequests.isOn s.store
        blockCookies := Flag.blockCookies.isOn s.store
        upgradeToHttps := Flag.upgradeToHttps.isOn s.store } := by
  have hproper : s.IsProper := hrun ▸ isProper_run (Safelist.isProper_load store resolver) ops
  refine ⟨?_, ?_, ?_, ?_, ?_, ?_, rfl⟩
  · intro f
    rw [← hrun, isOn_run]
    rfl
  · intro f answer after h
    obtain ⟨hanswer, rfl⟩ := Prod.mk.inj h
    rcases f.ask_cases s.store .toggle with ⟨after, hask, hget⟩ | ⟨e, after, hask, -⟩
    · rw [hask] at hanswer ⊢
      cases hanswer
      exact ⟨rfl, by rw [hget, if_pos rfl]; rfl⟩
    · rw [hask] at hanswer
      cases hanswer
  · intro op e after h
    exact unchanged_of_error hproper h
  · refine fun f c => ⟨rfl, fun g hne => ?_⟩
    exact isOn_perform_of_ne s fun heq => hne (Flag.key_injective heq).symm
  · intro c f
    exact isOn_perform_of_ne s (key_flag_ne_key_safelist f).symm
  · intro op k hsafelist hflag
    refine get?_perform_of_ne s ?_
    cases op with
    | flag f c => exact (hflag f).symm
    | safelist c => exact hsafelist.symm

/-- A store with a flag that is a text, a flag that is on and a key of another program, on a disk that
is full at the second text to come. -/
def mixedStore : FileStore FileStore.CrowdedShelf :=
  ⟨[("blockThirdPartyTrackingCookies", .text "no"), ("theme", .int 3),
    ("upgradeAllToHttps", .bool true)], ⟨{}, [false, true]⟩⟩

/-- One flag is toggled, a site cannot be allowed, another flag is set and reset, and the one that is
a text is toggled. -/
def mixedOperations : List Operation :=
  [.flag .upgradeToHttps .toggle, .safelist (.allow "b.org"), .flag .blockRequests (.set false),
    .flag .blockRequests .reset, .flag .blockCookies .toggle]

/-- The settings after that. -/
def mixedRun : Safelist (FileStore FileStore.CrowdedShelf) :=
  run (Safelist.load mixedStore .builtIn) mixedOperations

/-- Each flag has the value of its own history, and allowing a site that can be stored now touches
none of them. -/
theorem flags_and_safelist_apart_when_crowded :
    (history (Safelist.load mixedStore .builtIn) mixedOperations).map (·.2) =
      [.ok (some false), .error (.io .refused), .ok none, .ok none, .ok (some false)] ∧
    Features.ofStore mixedRun.store = ⟨true, false, false⟩ ∧
    (perform mixedRun (.safelist (.allow "b.org"))).2.sites = ["b.org"] ∧
    ∀ f : Flag, f.isOn (perform mixedRun (.safelist (.allow "b.org"))).2.store =
      expected f (SettingsStore.get? mixedStore f.key)
        (history (Safelist.load mixedStore .builtIn) mixedOperations) := by
  have hrun : run (Safelist.load mixedStore .builtIn) mixedOperations = mixedRun := rfl
  obtain ⟨hvalues, -, -, -, hsafelist, -, hfeatures⟩ := flags_and_safelist_apart hrun
  refine ⟨by decide +kernel, ?_, by decide +kernel, ?_⟩
  · rw [hfeatures, hvalues, hvalues, hvalues]
    decide +kernel
  · intro f
    rw [hsafelist, hvalues]

end TrackerGuard.Settings
