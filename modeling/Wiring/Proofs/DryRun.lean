import Mathlib.Data.List.Forall2
import Wiring.Proofs.Pointwise

/-!
# Dry runs

A dry run touches no file and foretells the real run: its reports and counters, or the failure it
ends with unless a target before cannot be written. Main statement: `Manifest.foretells`.
-/

namespace Wiring

theorem Summary.add_setDryRun (s : Summary) (b : Bool) (r : Report) :
    ({ s with dryRun := b } : Summary).add r = { s.add r with dryRun := b } := by
  unfold add
  cases r.status <;> rfl

theorem Summary.foldl_add_setDryRun (s : Summary) (b : Bool) (reports : List Report) :
    reports.foldl add { s with dryRun := b } = { reports.foldl add s with dryRun := b } := by
  induction reports generalizing s with
  | nil => rfl
  | cons r reports ih => rw [List.foldl_cons, add_setDryRun, ih, List.foldl_cons]

theorem Summary.foldl_add_dryRun (s : Summary) (reports : List Report) :
    (reports.foldl add s).dryRun = s.dryRun := by
  induction reports generalizing s with
  | nil => rfl
  | cons r reports ih => rw [List.foldl_cons, ih, add_dryRun]

section
variable {d : Dependency} {disk : Disk} {t : Target}

theorem handleTarget_dryRun : (handleTarget d true disk t).result =
    (disk.source t).map fun p => (d.report t p.2.2, disk) := by
  cases hsource : disk.source t with
  | error failure => exact handleTarget_of_error hsource
  | ok p =>
    obtain ⟨l, file, content⟩ := p
    rw [handleTarget_of_ok hsource]
    cases d.inject t.mode content <;> rfl

theorem handleTarget_dryRun_eq_ok_iff {r : Report} {after : Disk} :
    (handleTarget d true disk t).result = .ok (r, after) ↔ Reports d disk t r ∧ after = disk := by
  rw [handleTarget_dryRun]
  unfold Reports
  constructor
  · intro h
    cases hsource : disk.source t with
    | error failure => rw [hsource] at h; cases h
    | ok p =>
      obtain ⟨l, file, content⟩ := p
      rw [hsource] at h
      cases h
      obtain ⟨hopen, htext⟩ := Disk.source_eq_ok_iff.1 hsource
      exact ⟨⟨l, file, content, hopen, htext, rfl⟩, rfl⟩
  · intro h
    obtain ⟨⟨l, file, content, hopen, htext, rfl⟩, rfl⟩ := h
    rw [Disk.source_eq_ok_iff.2 ⟨hopen, htext⟩]
    rfl

theorem handleTarget_dryRun_eq_error_iff {failure : Failure} :
    (handleTarget d true disk t).result = .error failure ↔ disk.source t = .error failure := by
  rw [handleTarget_dryRun]
  cases disk.source t with
  | error failure' => simp [Except.map]
  | ok p =>
    constructor
    · intro h
      cases h
    · intro h
      cases h

/-- A target that a dry run reports on can fail in a real run at the writing only. -/
theorem handleTarget_error_of_reports {r : Report} (hr : Reports d disk t r) {failure : Failure}
    (h : (handleTarget d false disk t).result = .error failure) :
    ∃ fault, failure = .unwritable t.path fault := by
  obtain ⟨l, file, content, hopen, htext, -⟩ := hr
  rw [handleTarget_of_ok (Disk.source_eq_ok_iff.2 ⟨hopen, htext⟩)] at h
  cases hinject : d.inject t.mode content with
  | skipped reason => simp [hinject] at h
  | injected updated =>
    simp only [hinject, Bool.false_eq_true, if_false] at h
    split at h
    · cases h
      exact ⟨_, rfl⟩
    · cases h

end

/-- A dry run gets through exactly when there is a report on each target as it lies on the disk. -/
theorem applyTargets_dryRun_eq_none_iff {d : Dependency} {disk after : Disk} {s s' : Summary}
    (hdry : s.dryRun = true) {targets : List Target} :
    applyTargets d disk s targets = (after, s', none) ↔ after = disk ∧
      ∃ reports, List.Forall₂ (Reports d disk) targets reports ∧ s' = reports.foldl Summary.add s := by
  induction targets generalizing s with
  | nil => simp only [applyTargets, List.forall₂_nil_left_iff, Prod.mk.injEq, exists_eq_left,
      List.foldl_nil, eq_comm (a := disk), eq_comm (a := s), and_true]
  | cons t ts ih =>
    rw [applyTargets, hdry]
    have ih := fun r => ih (s := s.add r) (by rw [Summary.add_dryRun, hdry])
    cases hresult : (handleTarget d true disk t).result with
    | error failure =>
      constructor
      · intro h
        cases h
      · intro h
        obtain ⟨rfl, reports, hreports, -⟩ := h
        cases hreports with
        | cons hr _ =>
          rw [handleTarget_dryRun_eq_ok_iff.2 ⟨hr, rfl⟩] at hresult
          cases hresult
    | ok p =>
      obtain ⟨r, next⟩ := p
      obtain ⟨hr, rfl⟩ := handleTarget_dryRun_eq_ok_iff.1 hresult
      refine (ih r).trans (and_congr_right fun _ => ?_)
      constructor
      · intro h
        obtain ⟨reports, hreports, rfl⟩ := h
        exact ⟨r :: reports, .cons hr hreports, rfl⟩
      · intro h
        obtain ⟨_, hreports, rfl⟩ := h
        cases hreports with
        | @cons _ r' _ reports hr' hreports =>
          have heq := handleTarget_dryRun_eq_ok_iff.2 ⟨hr', rfl⟩
          rw [hresult] at heq
          cases heq
          exact ⟨reports, hreports, rfl⟩

structure EndsAt (d : Dependency) (dryRun : Bool) (disk : Disk) (targets done : List Target)
    (t : Target) (failure : Failure) : Prop where
  reached : done ++ [t] <+: targets
  ends : ∃ p, runTargets d dryRun disk done = (p, none) ∧
    (handleTarget d dryRun p.disk t).result = .error failure

theorem IsOrdered.endsAt {d : Dependency} {dryRun : Bool} {disk after : Disk} {s : Summary}
    {done rest : List Target} {t : Target} {failure : Failure} (h : IsOrdered (done ++ t :: rest))
    (hdone : applyTargets d disk { dryRun } done = (after, s, none))
    (hfail : (handleTarget d dryRun after t).result = .error failure) :
    EndsAt d dryRun disk (done ++ t :: rest) done t failure := by
  have hordered : IsOrdered done := (List.pairwise_append.1 h).1
  obtain ⟨p, hp, rfl, -⟩ := hordered.exists_runTargets hdone
  exact ⟨⟨rest, by simp⟩, p, hp, hfail⟩

/-- A real run where a dry run fails at `t`, after `done`: it fails there too and alike, or it fails
before, at a target that cannot be written. -/
def FailsToo (d : Dependency) (disk : Disk) (targets done : List Target) (t : Target)
    (failure : Failure) : Prop :=
  ∃ p failure', runTargets d false disk targets = (p, some failure') ∧
    (failure' = failure ∧ EndsAt d false disk targets done t failure ∨
      ∃ early u fault, early ++ [u] <+: done ∧ failure' = .unwritable u.path fault ∧
        EndsAt d false disk targets early u failure')

structure Foretells (d : Dependency) (disk : Disk) (targets : List Target) : Prop where
  unchanged : ∀ q outcome, runTargets d true disk targets = (q, outcome) → q.disk = disk
  succeeds : ∀ p, runTargets d false disk targets = (p, none) →
    ∃ q, runTargets d true disk targets = (q, none) ∧ p.summary.dryRun = false ∧
      q.summary = { p.summary with dryRun := true }
  fails : ∀ q failure, runTargets d true disk targets = (q, some failure) →
    ∃ done t, EndsAt d true disk targets done t failure ∧ FailsToo d disk targets done t failure

section
variable {d : Dependency} {disk : Disk} {targets : List Target} (hordered : IsOrdered targets)
include hordered

theorem disk_of_runTargets_dryRun {q : Progress} {outcome : Option Failure}
    (hrun : runTargets d true disk targets = (q, outcome)) : q.disk = disk := by
  have hcore := hordered.core_runTargets d true disk
  rw [hrun] at hcore
  cases outcome with
  | none => exact ((applyTargets_dryRun_eq_none_iff rfl).1 hcore.symm).1
  | some failure =>
    obtain ⟨done, t, rest, rfl, hdone, -⟩ := exists_of_applyTargets_eq_failure hcore.symm
    exact ((applyTargets_dryRun_eq_none_iff rfl).1 hdone).1

variable (hsep : disk.Separates targets)
include hsep

theorem exists_dryRun_of_runTargets {p : Progress}
    (hrun : runTargets d false disk targets = (p, none)) :
    ∃ q, runTargets d true disk targets = (q, none) ∧ p.summary.dryRun = false ∧
      q.summary = { p.summary with dryRun := true } := by
  have hcore := hordered.core_runTargets d false disk
  rw [hrun] at hcore
  obtain ⟨-, reports, hreports, hsummary⟩ := (Rewritten.nil d disk).run hsep rfl hcore.symm
  have hdry := (applyTargets_dryRun_eq_none_iff (s := { dryRun := true }) rfl).2
    ⟨rfl, reports, hreports, rfl⟩
  obtain ⟨q, hq, -, hqs⟩ := hordered.exists_runTargets hdry
  have hp : p.summary = reports.foldl Summary.add { dryRun := false } := hsummary
  refine ⟨q, hq, ?_, ?_⟩
  · rw [hp, Summary.foldl_add_dryRun]
  · rw [hqs, hp, ← Summary.foldl_add_setDryRun]

theorem exists_run_of_dryRun_fails {q : Progress} {failure : Failure}
    (hrun : runTargets d true disk targets = (q, some failure)) :
    ∃ done t, EndsAt d true disk targets done t failure ∧ FailsToo d disk targets done t failure := by
  have hcore := hordered.core_runTargets d true disk
  rw [hrun] at hcore
  obtain ⟨done, t, rest, rfl, hdone, hfail⟩ := exists_of_applyTargets_eq_failure hcore.symm
  refine ⟨done, t, hordered.endsAt hdone hfail, ?_⟩
  obtain ⟨hsepdone, -, hsept⟩ := List.pairwise_append.1 hsep
  obtain ⟨hdisk, reports, hreports, -⟩ := (applyTargets_dryRun_eq_none_iff rfl).1 hdone
  have hdisk : q.disk = disk := hdisk
  have hfail : (handleTarget d true disk t).result = .error failure := hdisk ▸ hfail
  have hall : ∀ u ∈ done, ∃ r, Reports d disk u r :=
    (List.forall₂_and_left _ _).1 (hreports.imp fun u r hr => ⟨⟨r, hr⟩, hr⟩) |>.1
  -- the real run gets through the targets before, or fails at one that the dry run reported on
  cases hreal : applyTargets d disk { dryRun := false } done with
  | mk after result =>
    obtain ⟨s, outcome⟩ := result
    have happend := applyTargets_append d disk { dryRun := false } done (t :: rest)
    rw [hreal] at happend
    cases outcome with
    | none =>
      obtain ⟨hafter, -, -, hs⟩ := (Rewritten.nil d disk).run hsepdone rfl hreal
      have hsource : after.source t = .error failure :=
        (hafter.source_eq fun u hu => hsept u hu t (by simp)).trans
          (handleTarget_dryRun_eq_error_iff.1 hfail)
      have hreals : ∀ b, (handleTarget d b after t).result = .error failure :=
        fun b => handleTarget_of_error hsource
      have hwhole : applyTargets d disk { dryRun := false } (done ++ t :: rest) =
          (after, s, some failure) := by simp only [happend, applyTargets, hreals]
      obtain ⟨p, hp, -⟩ := hordered.exists_runTargets hwhole
      exact ⟨p, failure, hp, .inl ⟨rfl, hordered.endsAt hreal (hreals false)⟩⟩
    | some failure' =>
      obtain ⟨p, hp, -⟩ := hordered.exists_runTargets happend
      obtain ⟨early, u, late, rfl, hearly, hu⟩ := exists_of_applyTargets_eq_failure hreal
      obtain ⟨hsepearly, -, hsepu⟩ := List.pairwise_append.1 hsepdone
      obtain ⟨hafter, -⟩ := (Rewritten.nil d disk).run hsepearly rfl hearly
      obtain ⟨r, hr⟩ := hall u (by simp)
      obtain ⟨fault, rfl⟩ := handleTarget_error_of_reports hr
        (hafter.handleTarget_error (fun v hv => hsepu v hv u (by simp)) hu)
      rw [List.append_assoc, List.cons_append] at hordered ⊢
      exact ⟨p, _, by simpa using hp, .inr ⟨early, u, fault, ⟨late, by simp⟩, rfl,
        hordered.endsAt hearly hu⟩⟩

end

theorem Manifest.foretells {m : Manifest} (hm : m.fault? = none) {root : Text}
    (hroot : ['.', '.'] ∉ pieces '/' root) (htemplate : ['.', '.'] ∉ pieces '/' m.pathTemplate)
    (disk : Disk) : Foretells m.dependency disk (m.targets root) := by
  have hsep := (Manifest.fault?_eq_none_iff.1 hm).separates hroot htemplate disk
  have hordered := m.isOrdered_targets root
  exact ⟨fun _ _ => disk_of_runTargets_dryRun hordered,
    fun _ => exists_dryRun_of_runTargets hordered hsep,
    fun _ _ => exists_run_of_dryRun_fails hordered hsep⟩

/-- The first controller of two cannot be written, the second is not there. -/
def sealedSource : Disk where
  files := [(["src".toList, "Controller".toList, "A.php".toList],
    { bytes := utf8 openController, isSealed := true })]
  directories := [["src".toList, "Controller".toList, "Api".toList]]

/-- The fault of a file, and whether the file was to be written. -/
def Failure.fileFault? : Failure → Option (Bool × FileFault)
  | .unreadable _ fault => some (false, fault)
  | .unwritable _ fault => some (true, fault)
  | _ => none

theorem Failure.eq_of_fileFault? {failure : Failure} {fault : FileFault} :
    (failure.fileFault? = some (false, fault) → ∃ path, failure = .unreadable path fault) ∧
      (failure.fileFault? = some (true, fault) → ∃ path, failure = .unwritable path fault) := by
  cases failure <;> simp [fileFault?]

theorem Manifest.foretells_sealedSource : twoControllers.fault? = none ∧
    Foretells twoControllers.dependency sealedSource (twoControllers.targets []) ∧
    (∃ q path, runTargets twoControllers.dependency true sealedSource (twoControllers.targets []) =
      (q, some (.unreadable path .missing))) ∧
    ∃ p path, runTargets twoControllers.dependency false sealedSource (twoControllers.targets []) =
      (p, some (.unwritable path .notPermitted)) := by
  have hvalid : twoControllers.fault? = none := by decide +kernel
  have hroot : ['.', '.'] ∉ pieces '/' [] := by decide
  have hforetells := Manifest.foretells hvalid hroot (by decide) sealedSource
  have hdry : ((runTargets twoControllers.dependency true sealedSource
      (twoControllers.targets [])).2.bind Failure.fileFault?) = some (false, .missing) := by
    decide +kernel
  have hreal : ((runTargets twoControllers.dependency false sealedSource
      (twoControllers.targets [])).2.bind Failure.fileFault?) = some (true, .notPermitted) := by
    decide +kernel
  have hpair : ∀ {run : Progress × Option Failure} {failure : Failure},
      run.2 = some failure → ∃ p, run = (p, some failure) := fun h => ⟨_, Prod.ext rfl h⟩
  refine ⟨hvalid, hforetells, ?_, ?_⟩
  · obtain ⟨failure, hfailure, hfault⟩ := Option.bind_eq_some_iff.1 hdry
    obtain ⟨path, rfl⟩ := Failure.eq_of_fileFault?.1 hfault
    obtain ⟨q, hq⟩ := hpair hfailure
    exact ⟨q, path, hq⟩
  · obtain ⟨failure, hfailure, hfault⟩ := Option.bind_eq_some_iff.1 hreal
    obtain ⟨path, rfl⟩ := Failure.eq_of_fileFault?.2 hfault
    obtain ⟨p, hp⟩ := hpair hfailure
    exact ⟨p, path, hp⟩

end Wiring
