import Mathlib
import TrackerGuard.Artifact.Writer

/-!
# What one run writes

`Desk.outcome?` foresees the outcome of a run: the report and the artifact that it will leave if
nothing changes meanwhile.  The steps of the run do not change it (`Desk.outcome?_work`), and a run
that begins will store what the desk holds at that time.

When inputs change during a run, what it stores may be compiled from old and new ones together.
`Desk.IsRunOf` still says what it does with the artifact: it is as it was until the run stores some
compilation over it.
-/

namespace TrackerGuard.Desk

variable {ψ φ : Type} {d d' : Desk ψ φ}

/-- What is stored depends on the artifact alone. -/
lemma store_congr [TextFile φ] (h : d'.artifact = d.artifact) (c : Compilation) :
    d'.store c = d.store c := by
  rw [store, h, store]

variable [TextFile ψ]

lemma compile_of_ok {domains : List String} (h : TrackerList.ofFile d.list = .ok domains) :
    d.compile = RuleList.compile d.resolver domains d.safelist d.features := by
  rw [compile, compile?, h]
  rfl

lemma compile_of_error {fault : TrackerList.Fault} (h : TrackerList.ofFile d.list = .error fault) :
    d.compile = {} := by
  rw [compile, compile?, h]
  rfl

/-- The rules depend on what runs read. -/
lemma compile_congr (hresolver : d'.resolver = d.resolver) (hlist : d'.list = d.list)
    (hsafelist : d'.safelist = d.safelist) (hfeatures : d'.features = d.features) :
    d'.compile = d.compile := by
  rw [compile, compile?, hresolver, hlist, hsafelist, hfeatures, compile, compile?]

variable [TextFile φ]

/-! ## The outcome of a run -/

/-- The report and the artifact that are left when the run in progress is over and nothing changes
meanwhile; those of the last run if none is in progress. -/
def outcome? (d : Desk ψ φ) : Option (WriteReport × φ) :=
  match d.draft with
  | .begun => some (d.store d.compile)
  | .listed domains =>
    some (d.store (RuleList.compile d.resolver domains d.safelist d.features))
  | .exempted domains safelist =>
    some (d.store (RuleList.compile d.resolver domains safelist d.features))
  | .compiled c => some (d.store c)
  | .reported r => some (r, d.artifact)
  | .closed => d.report.map (·, d.artifact)

/-- A run does what it is about to do. -/
theorem outcome?_work (d : Desk ψ φ) : d.work.outcome? = d.outcome? := by
  cases hdraft : d.draft with
  | begun =>
      cases hlist : TrackerList.ofFile d.list with
      | ok domains =>
          simp only [work, outcome?, hdraft, hlist, compile_of_ok hlist]
          rfl
      | error fault =>
          simp only [work, outcome?, hdraft, hlist, compile_of_error hlist]
          rfl
  | listed domains =>
      simp only [work, outcome?, hdraft]
      rfl
  | exempted domains safelist =>
      simp only [work, outcome?, hdraft]
      rfl
  | compiled c => simp only [work, outcome?, hdraft]
  | reported r =>
      simp only [work, outcome?, hdraft]
      rfl
  | closed => simp only [work, outcome?, hdraft]

/-- A run does not change what runs read. -/
lemma compile_work (d : Desk ψ φ) : d.work.compile = d.compile := by
  cases hdraft : d.draft with
  | begun =>
      cases hlist : TrackerList.ofFile d.list with
      | ok domains =>
          simp only [work, hdraft, hlist]
          exact compile_congr rfl rfl rfl rfl
      | error fault =>
          simp only [work, hdraft, hlist]
          exact compile_congr rfl rfl rfl rfl
  | closed => simp only [work, hdraft]
  | _ =>
      simp only [work, hdraft]
      exact compile_congr rfl rfl rfl rfl

/-! ## Runs that are disturbed -/

/-- The run in progress began over the artifact of `d` and stores one compilation over it. -/
def IsRunOf (d d' : Desk ψ φ) : Prop :=
  match d'.draft with
  | .begun | .listed _ | .exempted _ _ | .compiled _ => d'.artifact = d.artifact
  | .reported _ | .closed => ∃ c, d'.outcome? = some (d.store c)

namespace IsRunOf

lemma of_begun (h : d.draft = .begun) : d.IsRunOf d := by
  rw [IsRunOf, h]

/-- Changes of what runs read do not matter. -/
lemma of_eq {d'' : Desk ψ φ} (h : d.IsRunOf d') (hdraft : d''.draft = d'.draft)
    (hartifact : d''.artifact = d'.artifact) (hreport : d''.report = d'.report) :
    d.IsRunOf d'' := by
  cases hd : d'.draft with
  | reported r | closed =>
      simp only [IsRunOf, outcome?, hdraft, hartifact, hreport, hd] at h ⊢
      exact h
  | _ =>
      simp only [IsRunOf, hdraft, hartifact, hd] at h ⊢
      exact h

lemma work (h : d.IsRunOf d') : d.IsRunOf d'.work := by
  have houtcome := d'.outcome?_work
  cases hdraft : d'.draft with
  | begun =>
      simp only [IsRunOf, hdraft] at h
      cases hlist : TrackerList.ofFile d'.list with
      | ok domains => simpa only [Desk.work, IsRunOf, hdraft, hlist] using h
      | error fault => simpa only [Desk.work, IsRunOf, hdraft, hlist] using h
  | listed domains =>
      simpa only [Desk.work, IsRunOf, hdraft] using h
  | exempted domains safelist =>
      simpa only [Desk.work, IsRunOf, hdraft] using h
  | compiled c =>
      simp only [IsRunOf, hdraft] at h
      have hdraft' : d'.work.draft = .reported (d'.store c).1 := by simp only [Desk.work, hdraft]
      simp only [IsRunOf, hdraft', houtcome]
      exact ⟨c, by rw [outcome?, hdraft]; exact congrArg some (store_congr h c)⟩
  | reported r =>
      have hdraft' : d'.work.draft = .closed := by simp only [Desk.work, hdraft]
      simp only [IsRunOf, hdraft] at h
      simpa only [IsRunOf, hdraft', houtcome] using h
  | closed => simpa only [Desk.work, hdraft] using h

end IsRunOf

/-! ## The artifact after a run -/

/-- What is to be seen of a run after it compiled `c` and wrote it over the artifact of `d`. -/
def Wrote (d : Desk ψ φ) (c : Compilation) (d' : Desk ψ φ) : Prop :=
  ∃ r, d'.report = some r ∧ r.tally = c.tally ∧ r.bytes = c.document.utf8ByteSize ∧
    (r.written ↔ (TextFile.write d.artifact c.document).1 = .ok ()) ∧
    TextFile.read d'.artifact =
      if r.written then .ok c.document else TextFile.read d.artifact

lemma wrote_of_outcome? [LawfulTextFile φ] {c : Compilation} (hclosed : d'.draft = .closed)
    (h : d'.outcome? = some (d.store c)) : d.Wrote c d' := by
  simp only [outcome?, hclosed, Option.map_eq_some_iff, Prod.ext_iff] at h
  obtain ⟨r, hreport, hr, hartifact⟩ := h
  refine ⟨r, hreport, ?_⟩
  rw [hr, hartifact, store]
  -- Both outcomes of the write give the same report up to whether the artifact was replaced.
  match hwrite : TextFile.write d.artifact c.document with
  | (.ok (), artifact) =>
      exact ⟨rfl, rfl, by simp, by simpa using LawfulTextFile.read_of_ok hwrite⟩
  | (.error e, artifact) =>
      exact ⟨rfl, rfl, by simp, by simpa using LawfulTextFile.read_of_error hwrite⟩

end TrackerGuard.Desk
