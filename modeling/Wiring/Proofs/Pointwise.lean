import Wiring.CommandLine.Execution
import Wiring.Proofs.Location
import Wiring.Proofs.Run
import Wiring.Proofs.Target

/-!
# Runs target by target

What a run makes of the files is what it makes of each target alone, up to the first target that
fails: `Manifest.runs_pointwise`.
-/

namespace Wiring

structure Rewritten (d : Dependency) (before : Disk) (targets : List Target) (after : Disk) :
    Prop where
  tree : before.SameTree after
  target : ∀ t ∈ targets, ∃ l file content, before.open t.path = .ok (l, file) ∧
    decodeUtf8 file.bytes = .ok content ∧
    after.file? l = some { file with bytes := (d.inject t.mode content).bytes file.bytes }
  other : ∀ l, (∀ t ∈ targets, before.locate t.path ≠ .ok l) → after.file? l = before.file? l

def Reports (d : Dependency) (before : Disk) (t : Target) (r : Report) : Prop :=
  ∃ l file content, before.open t.path = .ok (l, file) ∧ decodeUtf8 file.bytes = .ok content ∧
    r = d.report t content

namespace Rewritten
variable {d : Dependency} {before mid after : Disk} {targets : List Target} {t : Target}

theorem nil (d : Dependency) (disk : Disk) : Rewritten d disk [] disk :=
  ⟨.refl disk, nofun, fun _ _ => rfl⟩

section
variable (h : Rewritten d before targets mid)
  (hsep : ∀ u ∈ targets, ∀ l, before.locate u.path = .ok l → before.locate t.path ≠ .ok l)
include h hsep

theorem source_eq : mid.source t = before.source t := by
  have hopen : mid.open t.path = before.open t.path :=
    h.tree.open_eq fun l hl => h.other l fun u hu hul => hsep u hu l hul hl
  simp only [Disk.source, hopen]

theorem handleTarget_error {dryRun : Bool} {failure : Failure}
    (hfail : (handleTarget d dryRun mid t).result = .error failure) :
    (handleTarget d dryRun before t).result = .error failure := by
  have hsource := h.source_eq hsep
  cases hmid : mid.source t with
  | error fault =>
    rw [handleTarget_of_error hmid] at hfail
    rw [handleTarget_of_error (hsource.symm.trans hmid)]
    exact hfail
  | ok p =>
    obtain ⟨l, file, content⟩ := p
    rw [handleTarget_of_ok hmid] at hfail
    rw [handleTarget_of_ok (hsource.symm.trans hmid)]
    cases hinject : d.inject t.mode content with
    | skipped reason => simp [hinject] at hfail
    | injected updated =>
      simp only [hinject] at hfail ⊢
      split at hfail
      · cases hfail
      · split at hfail
        · rename_i hdry hsealed
          rw [if_neg hdry, if_pos hsealed]
          cases hfail
          rfl
        · cases hfail

theorem step {r : Report} (hresult : (handleTarget d false mid t).result = .ok (r, after)) :
    Rewritten d before (targets ++ [t]) after ∧ Reports d before t r := by
  have hsource := h.source_eq hsep
  cases hmid : mid.source t with
  | error fault =>
    rw [handleTarget_of_error hmid] at hresult
    cases hresult
  | ok p =>
    obtain ⟨l, file, content⟩ := p
    obtain ⟨hopen, htext⟩ := Disk.source_eq_ok_iff.1 (hsource.symm.trans hmid)
    have hl := (Disk.open_eq_ok_iff.1 hopen).1
    obtain ⟨htree, hother, hfile, rfl⟩ := handleTarget_eq_ok hmid hresult
    -- the targets before lie elsewhere, and so do all places that no target leads to
    refine ⟨⟨h.tree.trans htree, ?_, ?_⟩, l, file, content, hopen, htext, rfl⟩
    · intro u hu
      rcases List.mem_append.1 hu with hu | hu
      · obtain ⟨k, f, s, hk, hs, hf⟩ := h.target u hu
        have hne : k ≠ l := by
          rintro rfl
          exact hsep u hu k (Disk.open_eq_ok_iff.1 hk).1 hl
        exact ⟨k, f, s, hk, hs, (hother k hne).trans hf⟩
      · obtain rfl := List.mem_singleton.1 hu
        exact ⟨l, file, content, hopen, htext, hfile⟩
    · intro k hk
      have hne : k ≠ l := by
        rintro rfl
        exact hk t (by simp) hl
      exact (hother k hne).trans (h.other k fun u hu => hk u (by simp [hu]))

end

theorem run (h : Rewritten d before targets mid) {more : List Target}
    (hsep : before.Separates (targets ++ more)) {s s' : Summary} (hdry : s.dryRun = false)
    (hrun : applyTargets d mid s more = (after, s', none)) :
    Rewritten d before (targets ++ more) after ∧
      ∃ reports, List.Forall₂ (Reports d before) more reports ∧ s' = reports.foldl Summary.add s := by
  induction more generalizing targets mid s with
  | nil =>
    cases hrun
    exact ⟨(List.append_nil targets).symm ▸ h, [], .nil, rfl⟩
  | cons t ts ih =>
    rw [applyTargets, hdry] at hrun
    rw [List.append_cons] at hsep ⊢
    cases hresult : (handleTarget d false mid t).result with
    | error failure =>
      rw [hresult] at hrun
      cases hrun
    | ok p =>
      obtain ⟨r, next⟩ := p
      rw [hresult] at hrun
      have hnew : ∀ u ∈ targets, ∀ l, before.locate u.path = .ok l → before.locate t.path ≠ .ok l :=
        fun u hu => (List.pairwise_append.1 (List.pairwise_append.1 hsep).1).2.2 u hu t (by simp)
      obtain ⟨hnext, hr⟩ := h.step hnew hresult
      obtain ⟨hall, reports, hreports, rfl⟩ := ih hnext hsep (by rw [Summary.add_dryRun, hdry]) hrun
      exact ⟨hall, r :: reports, .cons hr hreports, rfl⟩

end Rewritten

/-- A run that ends well, as a map over its targets: the files, the reports and the counters. -/
structure RunsPointwise (d : Dependency) (disk : Disk) (targets : List Target) (p : Progress) :
    Prop where
  files : Rewritten d disk targets p.disk
  reports : List.Forall₂ (Reports d disk) targets p.summary.reports
  counts : p.summary.Counts

theorem runsPointwise_of_separates {d : Dependency} {disk : Disk} {targets : List Target}
    (hsep : disk.Separates targets) (hordered : IsOrdered targets) {p : Progress}
    (hrun : runTargets d false disk targets = (p, none)) : RunsPointwise d disk targets p := by
  have hcore := hordered.core_runTargets d false disk
  rw [hrun] at hcore
  obtain ⟨hfiles, reports, hreports, hsummary⟩ :=
    (Rewritten.nil d disk).run hsep rfl hcore.symm
  obtain ⟨hadded, hcounts⟩ := Summary.foldl_add { dryRun := false } reports
  refine ⟨hfiles, ?_, ?_⟩
  · rw [hsummary, hadded]
    exact hreports
  · rw [hsummary]
    exact hcounts ⟨rfl, rfl, rfl⟩

/-- A run that ends early did what a run over the targets before does. -/
theorem exists_of_runTargets_eq_failure {d : Dependency} {disk : Disk} {targets : List Target}
    (hsep : disk.Separates targets) (hordered : IsOrdered targets) {p : Progress} {failure : Failure}
    (hrun : runTargets d false disk targets = (p, some failure)) :
    ∃ done t rest q, targets = done ++ t :: rest ∧ runTargets d false disk done = (q, none) ∧
      RunsPointwise d disk done q ∧ p.disk = q.disk ∧
      (handleTarget d false disk t).result = .error failure := by
  have hcore := hordered.core_runTargets d false disk
  rw [hrun] at hcore
  obtain ⟨done, t, rest, rfl, hdone, hfail⟩ := exists_of_applyTargets_eq_failure hcore.symm
  obtain ⟨hsepdone, -, hsept⟩ := List.pairwise_append.1 hsep
  have hordereddone : IsOrdered done := (List.pairwise_append.1 hordered).1
  obtain ⟨q, hq, hdisk, -⟩ := hordereddone.exists_runTargets hdone
  have hpointwise := runsPointwise_of_separates hsepdone hordereddone hq
  refine ⟨done, t, rest, q, rfl, hq, hpointwise, hdisk.symm, ?_⟩
  exact (hdisk ▸ hpointwise.files).handleTarget_error (fun u hu => hsept u hu t (by simp)) hfail

/-- A run maps the targets of a valid manifest one by one, from what each held at the start, up to
the first that fails. No file is touched for a manifest that is not read or not valid. -/
theorem Manifest.runs_pointwise {m : Manifest} (hm : m.fault? = none) {root : Text}
    (hroot : ['.', '.'] ∉ pieces '/' root) (htemplate : ['.', '.'] ∉ pieces '/' m.pathTemplate)
    (disk : Disk) :
    (∀ p, runTargets m.dependency false disk (m.targets root) = (p, none) →
      RunsPointwise m.dependency disk (m.targets root) p) ∧
    (∀ p failure, runTargets m.dependency false disk (m.targets root) = (p, some failure) →
      ∃ done t rest q, m.targets root = done ++ t :: rest ∧
        runTargets m.dependency false disk done = (q, none) ∧
        RunsPointwise m.dependency disk done q ∧ p.disk = q.disk ∧
        (handleTarget m.dependency false disk t).result = .error failure) ∧
    ∀ (o : RunOptions) (verbose : Bool),
      (∀ failure, loadManifest disk o.manifest = .error failure →
        (o.execute root verbose disk).disk = disk ∧
          (o.execute root verbose disk).failure = some failure) ∧
      (∀ entry read fault, loadManifest disk o.manifest = .ok (entry, read) →
        (o.override read).fault? = some fault →
        (o.execute root verbose disk).disk = disk ∧
          (o.execute root verbose disk).failure = some (.invalid fault)) := by
  have hsep := (Manifest.fault?_eq_none_iff.1 hm).separates hroot htemplate disk
  have hordered := m.isOrdered_targets root
  refine ⟨fun p => runsPointwise_of_separates hsep hordered,
    fun p failure => exists_of_runTargets_eq_failure hsep hordered, fun o verbose => ⟨?_, ?_⟩⟩
  · intro failure hload
    simp [RunOptions.execute, prepareManifest, hload]
  · intro entry read fault hload hfault
    simp [RunOptions.execute, prepareManifest, hload, hfault]

def twoControllers : Manifest := { extend := ["A".toList], create := ["Api/B".toList] }

def twoSources : Disk where
  files := [
    (["src".toList, "Controller".toList, "A.php".toList], { bytes := utf8 openController }),
    (["src".toList, "Controller".toList, "Api".toList, "B.php".toList], { bytes := [] })]

theorem Manifest.runs_pointwise_twoControllers : twoControllers.fault? = none ∧
    ∃ p, runTargets twoControllers.dependency false twoSources (twoControllers.targets []) =
      (p, none) ∧
    RunsPointwise twoControllers.dependency twoSources (twoControllers.targets []) p ∧
    p.summary.injected = 1 := by
  have hvalid : twoControllers.fault? = none := by decide +kernel
  have hrun : (runTargets twoControllers.dependency false twoSources
      (twoControllers.targets [])).2.isNone ∧ (runTargets twoControllers.dependency false twoSources
      (twoControllers.targets [])).1.summary.injected = 1 := by decide +kernel
  have hroot : ['.', '.'] ∉ pieces '/' [] := by decide
  have h := (Manifest.runs_pointwise hvalid hroot (by decide) twoSources).1
  cases hr : runTargets twoControllers.dependency false twoSources (twoControllers.targets []) with
  | mk p failure =>
    rw [hr] at hrun
    obtain rfl : failure = none := Option.isNone_iff_eq_none.1 hrun.1
    exact ⟨hvalid, p, rfl, h p hr, hrun.2⟩

end Wiring
