import Wiring.Proofs.Disk
import Wiring.Proofs.Injection
import Wiring.Run

/-!
# One target

What the handling of a target comes to, by what is read of it and what becomes of its text.
-/

namespace Wiring

def Disk.source (disk : Disk) (t : Target) : Except Failure (Location × File × Text) :=
  match disk.open t.path with
  | .error fault => .error (.unreadable t.path fault)
  | .ok (l, file) =>
    match decodeUtf8 file.bytes with
    | .error fault => .error (.undecodable t.path fault)
    | .ok content => .ok (l, file, content)

theorem Disk.source_eq_ok_iff {disk : Disk} {t : Target} {l : Location} {file : File}
    {content : Text} : disk.source t = .ok (l, file, content) ↔
      disk.open t.path = .ok (l, file) ∧ decodeUtf8 file.bytes = .ok content := by
  unfold source
  cases hopen : disk.open t.path with
  | error fault => exact ⟨nofun, nofun⟩
  | ok p =>
    obtain ⟨k, f⟩ := p
    cases htext : decodeUtf8 f.bytes with
    | error fault =>
      refine ⟨by simp [htext], ?_⟩
      intro h
      obtain ⟨⟨⟩, h⟩ := h
      simp [htext] at h
    | ok s =>
      simp only [htext, Except.ok.injEq, Prod.mk.injEq]
      constructor
      · intro h'
        obtain ⟨rfl, rfl, rfl⟩ := h'
        exact ⟨⟨rfl, rfl⟩, htext⟩
      · intro h
        obtain ⟨⟨rfl, rfl⟩, h⟩ := h
        exact ⟨rfl, rfl, Except.ok.inj (htext.symm.trans h)⟩

def Outcome.bytes : Outcome → Bytes → Bytes
  | .injected updated, _ => utf8 updated
  | .skipped _, bytes => bytes

def Dependency.warning (d : Dependency) : Outcome → Option Text
  | .injected updated => if d.isImported updated then none else some importWarning
  | .skipped _ => none

def Dependency.report (d : Dependency) (t : Target) (content : Text) : Report :=
  let outcome := d.inject t.mode content
  ⟨t.name, t.path, t.mode, outcome.status, d.warning outcome⟩

section
variable {d : Dependency} {dryRun : Bool} {disk : Disk} {t : Target}

theorem handleTarget_of_error {failure : Failure} (h : disk.source t = .error failure) :
    (handleTarget d dryRun disk t).result = .error failure := by
  unfold Disk.source at h
  unfold handleTarget
  cases hopen : disk.open t.path with
  | error fault =>
    rw [hopen] at h
    cases h
    simp only [Disk.read_of_error hopen]
  | ok p =>
    rw [hopen] at h
    cases htext : decodeUtf8 p.2.bytes with
    | error fault =>
      simp only [htext] at h
      cases h
      simp only [Disk.read_of_ok hopen, htext]
    | ok content => simp [htext] at h

variable {l : Location} {file : File} {content : Text}

theorem handleTarget_of_ok (h : disk.source t = .ok (l, file, content)) :
    (handleTarget d dryRun disk t).result =
      match d.inject t.mode content with
      | .skipped _ => .ok (d.report t content, disk)
      | .injected updated =>
        if dryRun then .ok (d.report t content, disk)
        else if file.isSealed then .error (.unwritable t.path .notPermitted)
        else .ok (d.report t content, disk.replace l (utf8 updated)) := by
  obtain ⟨hopen, htext⟩ := Disk.source_eq_ok_iff.1 h
  unfold handleTarget
  simp only [Disk.read_of_ok hopen, htext]
  cases hinject : d.inject t.mode content with
  | skipped reason => simp [Dependency.report, hinject, Dependency.warning]
  | injected updated =>
    have hne : updated ≠ content := by
      rintro rfl
      exact absurd (Dependency.length_lt_of_injected hinject) (Nat.lt_irrefl _)
    have hreport : d.report t content =
      ⟨t.name, t.path, t.mode, .injected, d.warning (.injected updated)⟩ := by
      simp [Dependency.report, hinject, Outcome.status]
    rw [hreport]
    cases dryRun with
    | true => rfl
    | false =>
      simp only [handleRewritten, hne, Bool.false_eq_true, if_false, Disk.write_eq hopen]
      cases file.isSealed <;> rfl

theorem handleTarget_of_injected {bytes : Bytes} {updated : Text} (hread : disk.read t.path = .ok bytes)
    (htext : decodeUtf8 bytes = .ok content) (h : d.inject t.mode content = .injected updated) :
    (handleTarget d dryRun disk t).result =
      if dryRun then .ok (d.report t content, disk)
      else
        match disk.write t.path (utf8 updated) with
        | .error fault => .error (.unwritable t.path fault)
        | .ok after => .ok (d.report t content, after) := by
  have hne : updated ≠ content := by
    rintro rfl
    exact absurd (Dependency.length_lt_of_injected h) (Nat.lt_irrefl _)
  have hreport : d.report t content =
      ⟨t.name, t.path, t.mode, .injected, d.warning (.injected updated)⟩ := by
    simp only [Dependency.report, h, Outcome.status]
  rw [hreport]
  unfold handleTarget
  simp only [hread, htext, h, handleRewritten, hne, if_false]
  cases dryRun with
  | true => rfl
  | false => cases disk.write t.path (utf8 updated) <;> rfl

/-- A target that is handled to its end changes its own file and no other. -/
theorem handleTarget_eq_ok (h : disk.source t = .ok (l, file, content)) {r : Report} {after : Disk}
    (hresult : (handleTarget d false disk t).result = .ok (r, after)) :
    disk.SameTree after ∧ (∀ k, k ≠ l → after.file? k = disk.file? k) ∧
      after.file? l = some { file with bytes := (d.inject t.mode content).bytes file.bytes } ∧
      r = d.report t content := by
  have hfile := (Disk.open_eq_ok_iff.1 (Disk.source_eq_ok_iff.1 h).1).2
  rw [handleTarget_of_ok h] at hresult
  cases hinject : d.inject t.mode content with
  | skipped reason =>
    simp only [hinject, Except.ok.injEq, Prod.mk.injEq] at hresult
    obtain ⟨rfl, rfl⟩ := hresult
    exact ⟨.refl disk, fun _ _ => rfl, hfile, rfl⟩
  | injected updated =>
    simp only [hinject, Bool.false_eq_true, if_false] at hresult
    split at hresult
    · cases hresult
    · simp only [Except.ok.injEq, Prod.mk.injEq] at hresult
      obtain ⟨rfl, rfl⟩ := hresult
      refine ⟨disk.replace_sameTree l _, fun k hk => ?_, ?_, rfl⟩
      · rw [Disk.file?_replace, if_neg hk]
      · rw [Disk.file?_replace, if_pos rfl, hfile]
        rfl

end

end Wiring
