import Mathlib
import TrackerGuard.Command.Run
import TrackerGuard.Proofs.Artifact.Awaited

/-!
# When a compilation succeeds

A compilation succeeds when it has replaced the artifact by the document of the right rules, and
fails otherwise; when it fails, the artifact is as it was.  It fails for two reasons.  A list that
cannot be loaded is one only with `strict` set, and otherwise counts as a list without domains.  The
other one is that the artifact cannot be replaced.

The command learns from a report whether the artifact was replaced, and the report is written by
another thread.  `Returns` says what the command may return and leave, in all orders in which its
threads may go on; it is the same in all of them (`returns_iff`).
-/

namespace TrackerGuard.Command

open Writer

variable {σ ψ φ : Type} [SettingsStore σ] [TextFile ψ] {resolver : Resolver} {store : σ} {list : ψ}

/-- The document that belongs into the artifact: that of the rules for the list under what is
stored, and without rules if the list cannot be loaded. -/
def rightDocument (resolver : Resolver) (store : σ) (list : ψ) : String :=
  match TrackerList.ofFile list with
  | .ok domains =>
    (RuleList.compile resolver domains (Safelist.load store resolver).sites
      (Features.ofStore store)).document
  | .error _ => "[]"

/-- The desk of a command before its run. -/
def openDesk (resolver : Resolver) (store : σ) (list : ψ) (artifact : φ) : Desk ψ φ where
  resolver := resolver
  list := list
  safelist := (Safelist.load store resolver).sites
  features := Features.ofStore store
  artifact := artifact

lemma document_compile_openDesk (artifact : φ) :
    (openDesk resolver store list artifact).compile.document =
      rightDocument resolver store list := by
  rw [rightDocument]
  cases hlist : TrackerList.ofFile list with
  | ok domains => rw [Desk.compile_of_ok (d := openDesk resolver store list artifact) hlist]; rfl
  | error fault =>
      rw [Desk.compile_of_error (d := openDesk resolver store list artifact) hlist]
      rfl

/-- What a command makes of what it finds on the desk when it looks for the report. -/
def conclude (d : Desk ψ φ) : Except CompileFault WriteReport × φ :=
  match d.report.filter (·.written) with
  | some report => (.ok report, d.artifact)
  | none => (.error .notWritten, d.artifact)

variable [TextFile φ] {artifact : φ} {strict : Bool}

/-- What a command may return, and what it leaves in the place of the artifact. -/
inductive Returns (resolver : Resolver) (store : σ) (list : ψ) (strict : Bool) (artifact : φ) :
    Except CompileFault WriteReport × φ → Prop where
  /-- An empty artifact is not wanted, and nothing is begun. -/
  | refused {cause : TrackerList.Fault} (hstrict : strict)
      (hlist : TrackerList.ofFile list = .error cause) :
      Returns resolver store list strict artifact (.error (.list cause), artifact)
  /-- A write has been waited for. -/
  | concluded {w : Writer ψ φ}
      (hlist : strict → (TrackerList.ofFile list).isOk)
      (awaited : Awaited { desk := openDesk resolver store list artifact } w) :
      Returns resolver store list strict artifact (conclude w.desk)

/-- The command that runs draws its conclusion from a run that nothing disturbs. -/
lemma writeAnyArtifact_eq :
    writeAnyArtifact resolver store list artifact =
      conclude (openDesk resolver store list artifact).workThrough := by
  -- The match is not to be reduced here: that would evaluate the schedule step by step.
  delta writeAnyArtifact openDesk
  simp -iota only [regenerate_desk]
  generalize (Desk.workThrough _ : Desk ψ φ) = done
  cases hfound : done.report.filter (·.written) <;> simp only [conclude, hfound]

/-- All orders of the threads lead to the same conclusion. -/
lemma conclude_eq_writeAnyArtifact {w : Writer ψ φ}
    (h : Awaited { desk := openDesk resolver store list artifact } w) :
    conclude w.desk = writeAnyArtifact resolver store list artifact := by
  obtain ⟨s, hthrough⟩ := exists_awaited (d := openDesk resolver store list artifact) rfl
  obtain ⟨hreport, hartifact⟩ := h.report_and_artifact_eq rfl
  obtain ⟨hreport', hartifact'⟩ := hthrough.report_and_artifact_eq rfl
  rw [writeAnyArtifact_eq, conclude, hreport, hartifact, conclude, hreport', hartifact']

/-- All orders in which the threads may go on come to the same, and some of them to an end. -/
theorem returns_iff {outcome : Except CompileFault WriteReport × φ} :
    Returns resolver store list strict artifact outcome ↔
      outcome = writeArtifact resolver store list strict artifact := by
  constructor
  · intro h
    cases h with
    | refused hstrict hlist => rw [writeArtifact, if_pos hstrict, hlist]
    | concluded hlist awaited =>
        rw [writeArtifact, conclude_eq_writeAnyArtifact awaited]
        split
        next hstrict =>
          cases hloaded : TrackerList.ofFile list with
          | ok domains => rfl
          | error cause => cases hloaded ▸ hlist hstrict
        next => rfl
  · rintro rfl
    obtain ⟨s, awaited⟩ := exists_awaited (d := openDesk resolver store list artifact) rfl
    rw [writeArtifact, ← conclude_eq_writeAnyArtifact awaited]
    split
    next hstrict =>
      cases hlist : TrackerList.ofFile list with
      | ok domains => exact .concluded (fun _ => hlist ▸ rfl) awaited
      | error cause => exact .refused hstrict hlist
    next hstrict => exact .concluded (fun h => absurd h hstrict) awaited

/-! ## Success -/

omit [TextFile ψ] in
/-- The command succeeds if the write did, and then the artifact has the new document. -/
lemma conclude_of_wrote {d d' : Desk ψ φ} {c : Compilation} (h : d.Wrote c d') :
    ((conclude d').1.isOk ↔ (TextFile.write d.artifact c.document).1 = .ok ()) ∧
      TextFile.read (conclude d').2 =
        if (conclude d').1.isOk then .ok c.document else TextFile.read d.artifact := by
  obtain ⟨r, hreport, -, -, hwritten, hread⟩ := h
  rw [← hwritten, conclude, hreport]
  cases hr : r.written with
  | true => simpa [Option.filter, hr, Except.isOk, Except.toBool] using hread
  | false => simpa [Option.filter, hr, Except.isOk, Except.toBool] using hread

lemma Returns.isOk_iff_and_read_eq [LawfulTextFile φ]
    {outcome : Except CompileFault WriteReport × φ}
    (h : Returns resolver store list strict artifact outcome) :
    (outcome.1.isOk ↔ (strict → (TrackerList.ofFile list).isOk) ∧
      (TextFile.write artifact (rightDocument resolver store list)).1 = .ok ()) ∧
    TextFile.read outcome.2 =
      if outcome.1.isOk then .ok (rightDocument resolver store list)
      else TextFile.read artifact := by
  cases h with
  | refused hstrict hlist =>
      exact ⟨⟨nofun, fun ⟨hloads, _⟩ => nomatch hlist ▸ hloads hstrict⟩, rfl⟩
  | concluded hlist awaited =>
      obtain ⟨hok, hread⟩ := conclude_of_wrote (awaited.wrote rfl)
      rw [document_compile_openDesk] at hok hread
      exact ⟨hok.trans (and_iff_right hlist).symm, hread⟩

/-- A compilation succeeds exactly when it has replaced the artifact by the right document.  In
whatever order its threads go on, it returns the same: success if the list loads, where `strict`
asks for it, and the document can be written; then the artifact has that document, and otherwise it
is as it was.  The task that prints what was done succeeds and fails with it. -/
theorem compile_succeeds_iff_artifact_replaced {δ : Type} [Folder δ] [LawfulFolder δ]
    (resolver : Resolver) (store : σ) (list : ψ) (strict : Bool) (artifact : δ) :
    (∀ outcome, Returns resolver store list strict artifact outcome ↔
      outcome = writeArtifact resolver store list strict artifact) ∧
    ((writeArtifact resolver store list strict artifact).1.isOk ↔
      (strict → (TrackerList.ofFile list).isOk) ∧
        (TextFile.write artifact (rightDocument resolver store list)).1 = .ok ()) ∧
    (TextFile.read (writeArtifact resolver store list strict artifact).2 =
      if (writeArtifact resolver store list strict artifact).1.isOk then
        .ok (rightDocument resolver store list)
      else TextFile.read artifact) ∧
    ∀ (place : String → δ) (path input output : String) (files : FileStore δ),
      let ran := runTask place path files resolver (.compile input output strict)
      let written := writeArtifact resolver files (place input) strict (place output)
      ran.result.isOk = written.1.isOk ∧ ran.file = written.2 := by
  have hreturns : Returns resolver store list strict artifact
      (writeArtifact resolver store list strict artifact) := returns_iff.mpr rfl
  obtain ⟨hok, hread⟩ := hreturns.isOk_iff_and_read_eq
  refine ⟨fun outcome => returns_iff, hok, hread, fun place path input output files => ?_⟩
  simp only [runTask]
  split
  next hwritten => rw [hwritten]; exact ⟨rfl, rfl⟩
  next hwritten => rw [hwritten]; exact ⟨rfl, rfl⟩
  next hwritten => rw [hwritten]; exact ⟨rfl, rfl⟩

/-- A list with one domain. -/
def shortList : FileCell := { content := .text "[\"tracker.com\"]" }

/-- An artifact that is there. -/
def oldArtifact : Shelf := { content := .text "[]" }

/-- An artifact that is there, with a directory in the way of the temporary file. -/
def obstructedArtifact : Shelf := { oldArtifact with beside := .unreadable .isADirectory }

/-- A list is compiled; the artifact cannot be replaced; a list is missing, with `strict` set and
without. -/
theorem compile_succeeds_iff_artifact_replaced_over_artifact :
    let compiled := writeArtifact .builtIn ({} : TransientStore) shortList true oldArtifact
    let blocked := writeArtifact .builtIn ({} : TransientStore) shortList true obstructedArtifact
    let refused := writeArtifact .builtIn ({} : TransientStore) ({} : FileCell) true oldArtifact
    let emptied := writeArtifact .builtIn ({} : TransientStore) ({} : FileCell) false oldArtifact
    (compiled.1.isOk ∧ TextFile.read compiled.2 =
      .ok (rightDocument .builtIn ({} : TransientStore) shortList)) ∧
    (¬ blocked.1.isOk ∧ TextFile.read blocked.2 = .ok "[]") ∧
    (¬ refused.1.isOk ∧ TextFile.read refused.2 = .ok "[]") ∧
    (emptied.1.isOk ∧ TextFile.read emptied.2 = .ok "[]") := by
  have hloads : (TrackerList.ofFile shortList).isOk := by decide +kernel
  have hwrite (document : String) : (TextFile.write oldArtifact document).1 = .ok () := rfl
  have hblocks (document : String) : (TextFile.write obstructedArtifact document).1 ≠ .ok () :=
    nofun
  obtain ⟨-, hcompiled, hcompiled', -⟩ := compile_succeeds_iff_artifact_replaced .builtIn
    ({} : TransientStore) shortList true oldArtifact
  obtain ⟨-, hblocked, hblocked', -⟩ := compile_succeeds_iff_artifact_replaced .builtIn
    ({} : TransientStore) shortList true obstructedArtifact
  obtain ⟨-, hrefused, hrefused', -⟩ := compile_succeeds_iff_artifact_replaced .builtIn
    ({} : TransientStore) ({} : FileCell) true oldArtifact
  obtain ⟨-, hemptied, hemptied', -⟩ := compile_succeeds_iff_artifact_replaced .builtIn
    ({} : TransientStore) ({} : FileCell) false oldArtifact
  have hok := hcompiled.mpr ⟨fun _ => hloads, hwrite _⟩
  have hnot := mt hblocked.mp fun h => hblocks _ h.2
  have hnot' := mt hrefused.mp fun h => nomatch h.1 rfl
  have hok' := hemptied.mpr ⟨nofun, hwrite _⟩
  rw [if_pos hok] at hcompiled'
  rw [if_neg hnot] at hblocked'
  rw [if_neg hnot'] at hrefused'
  rw [if_pos hok'] at hemptied'
  exact ⟨⟨hok, hcompiled'⟩, ⟨hnot, hblocked'⟩, ⟨hnot', hrefused'⟩, hok', hemptied'⟩

end TrackerGuard.Command
