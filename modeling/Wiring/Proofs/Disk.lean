import Wiring.Disk

/-!
# Disks that differ in what their files hold

Writing to a file changes nothing about where paths lead, and nothing about the other files.
-/

namespace Wiring

theorem bind_eq_ok_iff {ε α β : Type} {x : Except ε α} {f : α → Except ε β} {b : β} :
    x >>= f = .ok b ↔ ∃ a, x = .ok a ∧ f a = .ok b := by
  cases x with
  | error e => exact ⟨nofun, nofun⟩
  | ok a => exact ⟨fun h => ⟨a, rfl, h⟩, by rintro ⟨_, ⟨⟩, h⟩; exact h⟩

/-- The same files and directories, whatever the files hold. -/
structure Disk.SameTree (d d' : Disk) : Prop where
  workingDirectory : d'.workingDirectory = d.workingDirectory
  directories : d'.directories = d.directories
  places : d'.files.map (·.1) = d.files.map (·.1)

namespace Disk

theorem SameTree.refl (d : Disk) : d.SameTree d := ⟨rfl, rfl, rfl⟩

theorem SameTree.trans {d d' d'' : Disk} (h : d.SameTree d') (h' : d'.SameTree d'') :
    d.SameTree d'' :=
  ⟨h'.workingDirectory.trans h.workingDirectory, h'.directories.trans h.directories,
    h'.places.trans h.places⟩

theorem isSome_file?_iff {d : Disk} {l : Location} :
    (d.file? l).isSome ↔ l ∈ d.files.map (·.1) := by
  unfold file?
  induction d.files with
  | nil => simp
  | cons f files ih =>
    by_cases hl : l = f.1 <;> simp [hl]

theorem isDirectory_eq (d : Disk) (l : Location) :
    d.isDirectory l = ((d.workingDirectory :: d.directories).any l.isPrefixOf ||
      (d.files.map (·.1)).any fun k => l.isPrefixOf k && l != k) := by
  simp [isDirectory, List.any_map, Function.comp_def]

theorem SameTree.isDirectory_eq {d d' : Disk} (h : d.SameTree d') (l : Location) :
    d'.isDirectory l = d.isDirectory l := by
  rw [Disk.isDirectory_eq, Disk.isDirectory_eq, h.workingDirectory, h.directories, h.places]

theorem SameTree.isSome_file?_eq {d d' : Disk} (h : d.SameTree d') (l : Location) :
    (d'.file? l).isSome = (d.file? l).isSome := by
  rw [Bool.eq_iff_iff, isSome_file?_iff, isSome_file?_iff, h.places]

theorem SameTree.enter_eq {d d' : Disk} (h : d.SameTree d') : d'.enter = d.enter := by
  funext l segment
  simp only [enter, h.isDirectory_eq, h.isSome_file?_eq]

theorem SameTree.locate_eq {d d' : Disk} (h : d.SameTree d') (path : Text) :
    d'.locate path = d.locate path := by
  simp only [locate, h.enter_eq, h.workingDirectory]

/-! ## Writing -/

theorem replace_sameTree (d : Disk) (l : Location) (bytes : Bytes) :
    d.SameTree (d.replace l bytes) := by
  refine ⟨rfl, rfl, ?_⟩
  simp only [replace, List.map_map]
  apply List.map_congr_left
  intro f _
  by_cases hf : f.1 = l <;> simp [hf]

theorem file?_replace (d : Disk) (l : Location) (bytes : Bytes) (k : Location) :
    (d.replace l bytes).file? k =
      if k = l then (d.file? k).map fun file => { file with bytes } else d.file? k := by
  simp only [file?, replace]
  induction d.files with
  | nil => simp
  | cons f files ih =>
    rw [List.map_cons, List.lookup_cons, List.lookup_cons]
    by_cases hk : k = f.1
    · by_cases hl : k = l
      · subst hl
        simp [hk]
      · have hf : f.1 ≠ l := fun h => hl (hk.trans h)
        simp [hk, hf]
    · by_cases hf : f.1 = l
      · subst hf
        simpa [hk, beq_eq_false_iff_ne.2 hk] using ih
      · simpa [hk, hf, beq_eq_false_iff_ne.2 hk] using ih

theorem open_eq_ok_iff {d : Disk} {path : Text} {l : Location} {file : File} :
    d.open path = .ok (l, file) ↔ d.locate path = .ok l ∧ d.file? l = some file := by
  unfold Disk.open
  rw [bind_eq_ok_iff]
  constructor
  · intro h
    obtain ⟨k, hk, h⟩ := h
    cases hfile : d.file? k with
    | none => simp only [hfile] at h; cases h
    | some f =>
      simp only [hfile] at h
      cases h
      exact ⟨hk, hfile⟩
  · intro h'
    obtain ⟨hl, hfile⟩ := h'
    refine ⟨l, hl, ?_⟩
    simp only [hfile]
    rfl

theorem read_of_error {d : Disk} {path : Text} {fault : FileFault}
    (h : d.open path = .error fault) : d.read path = .error fault := by
  rw [read, h]
  rfl

theorem read_of_ok {d : Disk} {path : Text} {p : Location × File} (h : d.open path = .ok p) :
    d.read path = .ok p.2.bytes := by
  rw [read, h]
  rfl

theorem SameTree.open_eq {d d' : Disk} (h : d.SameTree d') {path : Text}
    (hfile : ∀ l, d.locate path = .ok l → d'.file? l = d.file? l) :
    d'.open path = d.open path := by
  unfold Disk.open
  rw [h.locate_eq]
  cases hl : d.locate path with
  | error fault => rfl
  | ok l => simp only [bind, Except.bind, hfile l hl]

theorem write_eq {d : Disk} {path : Text} {l : Location} {file : File}
    (h : d.open path = .ok (l, file)) (bytes : Bytes) :
    d.write path bytes = if file.isSealed then .error .notPermitted else .ok (d.replace l bytes) := by
  rw [write, h]
  rfl

end Disk

end Wiring
