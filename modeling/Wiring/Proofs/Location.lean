import Wiring.Proofs.Disk
import Wiring.Proofs.Template
import Wiring.Proofs.Validity

/-!
# Where the targets of a manifest lie

Without two dots a path leads straight down from where it starts, so that the controllers of a valid
manifest lie at different places: `Manifest.IsValid.eq_of_locate`.
-/

namespace Wiring

def Disk.base (d : Disk) (path : Text) : Location :=
  if isAbsolute path then [] else d.workingDirectory

def steps (segments : List Text) : List Text :=
  segments.filter fun segment => (Component.ofSegment? segment).isSome

theorem Disk.enter_eq_ok {d : Disk} {l l' : Location} {segment : Text}
    (h : d.enter l segment = .ok l') (hup : segment ≠ ['.', '.']) : l' = l ++ steps [segment] := by
  unfold enter at h
  by_cases hdir : d.isDirectory l
  · by_cases hskip : segment = [] ∨ segment = ['.']
    · simp only [hdir, hskip, not_true, if_false, if_true, Except.ok.injEq] at h
      simp [steps, Component.ofSegment?, hskip, h]
    · simp only [hdir, hskip, hup, not_true, if_false] at h
      have hstep : steps [segment] = [segment] := by simp [steps, Component.ofSegment?, hskip, hup]
      rw [hstep]
      split at h
      · cases h
      · split at h
        · exact (Except.ok.inj h).symm
        · cases h
  · simp [hdir] at h

theorem Disk.foldlM_enter_eq_ok {d : Disk} {l l' : Location} {segments : List Text}
    (h : segments.foldlM d.enter l = .ok l') (hup : ['.', '.'] ∉ segments) :
    l' = l ++ steps segments := by
  induction segments generalizing l with
  | nil => simpa [steps] using (Except.ok.inj h).symm
  | cons segment segments ih =>
    obtain ⟨hne, hup⟩ := List.ne_and_not_mem_of_not_mem_cons hup
    rw [List.foldlM_cons] at h
    cases hnext : d.enter l segment with
    | error fault => rw [hnext] at h; cases h
    | ok next =>
      rw [hnext] at h
      rw [ih h hup, enter_eq_ok hnext hne.symm, List.append_assoc]
      exact congrArg (l ++ ·) (List.filter_append [segment] segments).symm

theorem Disk.locate_eq_ok {d : Disk} {path : Text} {l : Location} (h : d.locate path = .ok l)
    (hup : ['.', '.'] ∉ pieces '/' path) : l = d.base path ++ steps (pieces '/' path) := by
  unfold locate at h
  by_cases hnul : Char.ofNat 0 ∈ path
  · simp [hnul] at h
  · by_cases hnil : path = []
    · simp [hnil] at h
    · by_cases hlong : 4095 < byteLength path
      · simp [hnul, hnil, hlong] at h
      · simp only [hnul, hnil, hlong, if_false] at h
        exact foldlM_enter_eq_ok h hup

theorem flatMap_spellSegment_steps (segments : List Text) :
    (steps segments).flatMap spellSegment = segments.flatMap spellSegment := by
  induction segments with
  | nil => rfl
  | cons segment segments ih =>
    rw [List.flatMap_cons, ← ih, steps, List.filter_cons]
    split
    · rfl
    · rename_i h
      have h : Component.ofSegment? segment = none := Option.not_isSome_iff_eq_none.1 h
      simp [spellSegment, h, steps]

theorem Disk.spell_eq_of_locate {d : Disk} {p q : Text} {l : Location}
    (habs : isAbsolute p = isAbsolute q) (hp : none ∉ spell .start p) (hq : none ∉ spell .start q)
    (hpl : d.locate p = .ok l) (hql : d.locate q = .ok l) : spell .start p = spell .start q := by
  have hbase : d.base p = d.base q := by simp only [base, habs]
  have hpl := locate_eq_ok hpl (mt none_mem_spell.2 hp)
  have hql := locate_eq_ok hql (mt none_mem_spell.2 hq)
  rw [hpl, hbase] at hql
  rw [← flatMap_spellSegment, ← flatMap_spellSegment, ← flatMap_spellSegment_steps,
    List.append_cancel_left hql, flatMap_spellSegment_steps]

/-! ## Targets -/

section
variable {m : Manifest} {root : Text} (hroot : ['.', '.'] ∉ pieces '/' root)
  (htemplate : ['.', '.'] ∉ pieces '/' m.pathTemplate)

include hroot htemplate

theorem Manifest.none_not_mem_spell_pathOf {n : Text} (hn : IsDotless n) :
    none ∉ spell .start (m.pathOf root n) := by
  rw [← none_mem_spell] at hroot htemplate
  rw [pathOf, spell_joinPath, List.mem_append, none_mem_spell_expandTemplate hn]
  rintro (h | h)
  · split at h
    · exact absurd h (List.not_mem_nil)
    · exact hroot h
  · exact htemplate h

theorem Manifest.IsValid.eq_of_locate (hm : m.IsValid) {n n' : Text} (hn : n ∈ m.extend ++ m.create)
    (hn' : n' ∈ m.extend ++ m.create) {d : Disk} {l : Location}
    (h : d.locate (m.pathOf root n) = .ok l) (h' : d.locate (m.pathOf root n') = .ok l) :
    n = n' := by
  have hn := IsDotless.of_isControllerPath (hm.path n hn)
  have hn' := IsDotless.of_isControllerPath (hm.path n' hn')
  have habs : isAbsolute (expandTemplate n m.pathTemplate) =
      isAbsolute (expandTemplate n' m.pathTemplate) := by
    rw [isAbsolute_expandTemplate hn, isAbsolute_expandTemplate hn']
  have hspell := d.spell_eq_of_locate (by simp only [pathOf, isAbsolute_joinPath, habs])
    (none_not_mem_spell_pathOf hroot htemplate hn) (none_not_mem_spell_pathOf hroot htemplate hn')
    h h'
  rw [pathOf, pathOf, spell_joinPath, spell_joinPath, habs] at hspell
  exact expandTemplate_injective hn hn' hm.template (List.append_cancel_left hspell)

def Disk.Separates (d : Disk) (targets : List Target) : Prop :=
  targets.Pairwise fun t u => ∀ l, d.locate t.path = .ok l → d.locate u.path ≠ .ok l

omit hroot htemplate in
theorem Manifest.map_name_targets (m : Manifest) (root : Text) :
    (m.targets root).map (·.name) = m.extend ++ m.create := by
  simp [targets, targetsOf, names, Function.comp_def]

omit hroot htemplate in
theorem Manifest.path_of_mem_targets {t : Target} (ht : t ∈ m.targets root) :
    t.path = m.pathOf root t.name := by
  rcases List.mem_append.1 ht with ht | ht
  all_goals
    obtain ⟨n, -, rfl⟩ := List.mem_map.1 ht
    rfl

omit hroot htemplate in
/-- What holds of the places of different controllers holds of all pairs of targets. -/
theorem Manifest.IsValid.pairwise_targets (hm : m.IsValid) {R : Text → Text → Prop}
    (h : ∀ n ∈ m.extend ++ m.create, ∀ n' ∈ m.extend ++ m.create, n ≠ n' →
      R (m.pathOf root n) (m.pathOf root n')) :
    (m.targets root).Pairwise fun t u => R t.path u.path := by
  have hnames := List.pairwise_map.1 ((m.map_name_targets root).symm ▸ hm.nodup)
  have hmem : ∀ {t}, t ∈ m.targets root → t.name ∈ m.extend ++ m.create := fun ht =>
    m.map_name_targets root ▸ List.mem_map_of_mem ht
  refine hnames.imp_of_mem fun {t u} ht hu hne => ?_
  rw [path_of_mem_targets ht, path_of_mem_targets hu]
  exact h t.name (hmem ht) u.name (hmem hu) hne

theorem Manifest.IsValid.separates (hm : m.IsValid) (d : Disk) :
    d.Separates (m.targets root) :=
  hm.pairwise_targets (R := fun p q => ∀ l, d.locate p = .ok l → d.locate q ≠ .ok l)
    fun _ hn _ hn' hne _ hl hl' => hne (hm.eq_of_locate hroot htemplate hn hn' hl hl')

end

end Wiring
