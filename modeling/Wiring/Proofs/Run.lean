import Wiring.Run

/-!
# Runs without their output

A run handles the targets to extend, then the others, whatever it prints between them.
-/

namespace Wiring

/-! ## Summaries -/

@[simp] theorem Summary.add_dryRun (s : Summary) (r : Report) : (s.add r).dryRun = s.dryRun := by
  unfold add
  cases r.status <;> rfl

@[simp] theorem Summary.add_reports (s : Summary) (r : Report) :
    (s.add r).reports = s.reports ++ [r] := by
  unfold add
  cases r.status <;> rfl

structure Summary.Counts (s : Summary) : Prop where
  injected : s.injected = s.reports.countP (·.status = .injected)
  present : s.present = s.reports.countP (·.status = .present)
  noPlace : s.noPlace = s.reports.countP (·.status = .noPlace)

theorem Summary.Counts.add {s : Summary} (h : s.Counts) (r : Report) : (s.add r).Counts := by
  obtain ⟨hi, hp, hn⟩ := h
  constructor <;> rw [add_reports, List.countP_append, List.countP_singleton] <;> unfold Summary.add <;>
    cases r.status <;> simp [*]

theorem Summary.foldl_add (s : Summary) (reports : List Report) :
    (reports.foldl add s).reports = s.reports ++ reports ∧
      (s.Counts → (reports.foldl add s).Counts) := by
  induction reports generalizing s with
  | nil => exact ⟨(List.append_nil _).symm, id⟩
  | cons r reports ih =>
    obtain ⟨hreports, hcounts⟩ := ih (s.add r)
    refine ⟨?_, fun h => hcounts (h.add r)⟩
    rw [List.foldl_cons, hreports, add_reports, List.append_assoc, List.singleton_append]

/-! ## Disk and summary -/

def applyTargets (d : Dependency) (disk : Disk) (summary : Summary) :
    List Target → Disk × Summary × Option Failure
  | [] => (disk, summary, none)
  | t :: ts =>
    match (handleTarget d summary.dryRun disk t).result with
    | .error failure => (disk, summary, some failure)
    | .ok (report, disk) => applyTargets d disk (summary.add report) ts

/-- What a run comes to, without what it printed. -/
def core (r : Progress × Option Failure) : Disk × Summary × Option Failure :=
  (r.1.disk, r.1.summary, r.2)

theorem Progress.foldl_print (p : Progress) (lines : List Text) :
    (lines.foldl print p).disk = p.disk ∧ (lines.foldl print p).summary = p.summary := by
  induction lines generalizing p with
  | nil => exact ⟨rfl, rfl⟩
  | cons line lines ih => exact ih (p.print line)

theorem Progress.core_applyAll (p : Progress) (d : Dependency) (targets : List Target) :
    core (p.applyAll d targets) = applyTargets d p.disk p.summary targets := by
  induction targets generalizing p with
  | nil => rfl
  | cons t ts ih =>
    rw [applyAll, applyTargets, apply]
    cases h : (handleTarget d p.summary.dryRun p.disk t).result with
    | error failure => rfl
    | ok r =>
      obtain ⟨report, disk⟩ := r
      refine (ih _).trans ?_
      rw [(foldl_print _ report.lines).2]

theorem applyTargets_append (d : Dependency) (disk : Disk) (summary : Summary)
    (targets targets' : List Target) :
    applyTargets d disk summary (targets ++ targets') =
      match applyTargets d disk summary targets with
      | (disk, summary, none) => applyTargets d disk summary targets'
      | (disk, summary, some failure) => (disk, summary, some failure) := by
  induction targets generalizing disk summary with
  | nil => rfl
  | cons t ts ih =>
    rw [List.cons_append, applyTargets, applyTargets]
    cases (handleTarget d summary.dryRun disk t).result with
    | error failure => rfl
    | ok r => exact ih r.2 (summary.add r.1)

theorem Progress.core_applySection (p : Progress) (d : Dependency) (targets : List Target)
    (mode : Mode) : core (p.applySection d targets mode) =
      applyTargets d p.disk p.summary (targets.filter (·.mode = mode)) := by
  have h := (p.print mode.header).core_applyAll d (targets.filter (·.mode = mode))
  unfold applySection
  cases hrun : (p.print mode.header).applyAll d (targets.filter (·.mode = mode)) with
  | mk q failure =>
    rw [hrun] at h
    cases failure <;> exact h

theorem core_runTargets (d : Dependency) (dryRun : Bool) (disk : Disk) (targets : List Target) :
    core (runTargets d dryRun disk targets) =
      applyTargets d disk { dryRun }
        (targets.filter (·.mode = .extend) ++ targets.filter (·.mode = .create)) := by
  have hextend := ({ disk, summary := { dryRun } } : Progress).core_applySection d targets .extend
  rw [applyTargets_append, ← hextend, runTargets]
  cases hsection : ({ disk, summary := { dryRun } } : Progress).applySection d targets .extend with
  | mk p failure =>
    cases failure with
    | some failure => simp only [core]
    | none =>
      have hcreate := p.core_applySection d targets .create
      simp only [core] at hcreate ⊢
      rw [← hcreate]
      cases p.applySection d targets .create with
      | mk q failure =>
        cases failure with
        | some failure => rfl
        | none => cases dryRun <;> rfl

/-- The target at which a run ends, and the run up to it. -/
theorem exists_of_applyTargets_eq_failure {d : Dependency} {disk disk' : Disk}
    {summary summary' : Summary} {targets : List Target} {failure : Failure}
    (h : applyTargets d disk summary targets = (disk', summary', some failure)) :
    ∃ done t rest, targets = done ++ t :: rest ∧
      applyTargets d disk summary done = (disk', summary', none) ∧
      (handleTarget d summary.dryRun disk' t).result = .error failure := by
  induction targets generalizing disk summary with
  | nil => cases h
  | cons t ts ih =>
    rw [applyTargets] at h
    cases hresult : (handleTarget d summary.dryRun disk t).result with
    | error fault =>
      rw [hresult] at h
      cases h
      exact ⟨[], t, ts, rfl, rfl, hresult⟩
    | ok r =>
      rw [hresult] at h
      obtain ⟨done, u, rest, rfl, hrun, hu⟩ := ih h
      refine ⟨t :: done, u, rest, rfl, ?_, ?_⟩
      · rw [applyTargets, hresult]
        exact hrun
      · rwa [Summary.add_dryRun] at hu

/-! ## Order -/

def IsOrdered (targets : List Target) : Prop :=
  targets.Pairwise fun t u => t.mode = .create → u.mode = .create

theorem IsOrdered.filter_append {targets : List Target} (h : IsOrdered targets) :
    targets.filter (·.mode = .extend) ++ targets.filter (·.mode = .create) = targets := by
  induction targets with
  | nil => rfl
  | cons t ts ih =>
    obtain ⟨ht, hts⟩ := List.pairwise_cons.1 h
    cases hmode : t.mode with
    | extend => simp [hmode, ih hts]
    | create =>
      have hall : ∀ u ∈ ts, u.mode = .create := fun u hu => ht u hu hmode
      have hextend : ts.filter (·.mode = .extend) = [] :=
        List.filter_eq_nil_iff.2 fun u hu => by simp [hall u hu]
      have hcreate : ts.filter (·.mode = .create) = ts :=
        List.filter_eq_self.2 fun u hu => by simp [hall u hu]
      simp [hmode, hextend, hcreate]

theorem Manifest.isOrdered_targets (m : Manifest) (root : Text) : IsOrdered (m.targets root) := by
  refine List.pairwise_append.2 ⟨?_, ?_, ?_⟩
  · exact List.pairwise_map.2 (List.pairwise_of_forall fun n k h => nomatch h)
  · exact List.pairwise_map.2 (List.pairwise_of_forall fun n k _ => rfl)
  · intro t _ u hu _
    obtain ⟨n, -, rfl⟩ := List.mem_map.1 hu
    rfl

theorem IsOrdered.core_runTargets {targets : List Target} (h : IsOrdered targets) (d : Dependency)
    (dryRun : Bool) (disk : Disk) :
    core (runTargets d dryRun disk targets) = applyTargets d disk { dryRun } targets := by
  rw [Wiring.core_runTargets, h.filter_append]

theorem IsOrdered.exists_runTargets {targets : List Target} (h : IsOrdered targets) {d : Dependency}
    {dryRun : Bool} {disk after : Disk} {s : Summary} {outcome : Option Failure}
    (hrun : applyTargets d disk { dryRun } targets = (after, s, outcome)) :
    ∃ p, runTargets d dryRun disk targets = (p, outcome) ∧ p.disk = after ∧ p.summary = s := by
  have hcore := h.core_runTargets d dryRun disk
  rw [hrun] at hcore
  obtain ⟨rfl, rfl, rfl⟩ : _ ∧ _ ∧ _ := by simpa [core] using hcore
  exact ⟨_, rfl, rfl, rfl⟩

end Wiring
