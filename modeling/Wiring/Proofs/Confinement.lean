import Wiring.Proofs.Location
import Wiring.Proofs.Path

/-!
# Targets below their root

The names that a valid manifest lists lead nowhere up: with a relative template that has no two dots of
its own, all targets lie below the root that they are looked for in. Main statement:
`Manifest.confines_targets`.
-/

namespace Wiring

/-- Whether a path goes on from a root, and neither up nor back to the start of the disk. -/
def IsBelow (root path : Text) : Prop :=
  ∃ below, components path = components root ++ below ∧ .up ∉ below ∧ .root ∉ below

/-! ## The components that lead away -/

theorem Component.ofSegment?_eq_up_iff {segment : Text} :
    ofSegment? segment = some .up ↔ segment = ['.', '.'] := by
  unfold ofSegment?
  constructor
  · intro h
    split at h
    · cases h
    · split at h
      · assumption
      · cases h
  · rintro rfl
    rfl

theorem up_mem_laterComponents_iff {path : Text} :
    .up ∈ laterComponents path ↔ none ∈ spell .start path := by
  rw [none_mem_spell, laterComponents, List.mem_filterMap]
  simp only [Component.ofSegment?_eq_up_iff, exists_eq_right]

theorem up_mem_components_iff {path : Text} :
    .up ∈ components path ↔ .up ∈ laterComponents path := by
  rw [components_eq, List.mem_append, or_iff_right]
  intro h
  exact Bool.false_ne_true (isLeading_of_mem_leadingComponents h)

theorem root_mem_components_iff {path : Text} :
    .root ∈ components path ↔ isAbsolute path = true := by
  rw [components_eq, List.mem_append, or_iff_left, root_mem_leadingComponents_iff]
  intro h
  exact Bool.false_ne_true (isLeading_of_mem_laterComponents h).symm

/-! ## Paths from a root -/

theorem isBelow_joinPath {path : Text} (hpath : isAbsolute path = false) (hup : .up ∉ components path)
    (root : Text) : IsBelow root (joinPath root path) := by
  have hroot : .root ∉ components path := by
    rw [root_mem_components_iff, hpath]
    exact Bool.false_ne_true
  by_cases hnil : root = []
  · subst hnil
    exact ⟨components path, by rw [joinPath_eq_self (.inl rfl)]; rfl, hup, hroot⟩
  · have hlater : ∀ c ∈ laterComponents path, c ∈ components path := fun _ =>
      List.mem_append_right (leadingComponents path)
    exact ⟨laterComponents path, components_joinPath hnil hpath, fun h => hup (hlater _ h),
      fun h => hroot (hlater _ h)⟩

/-- The segments of a name keep those of the template apart from two dots, wherever it is put. -/
theorem up_mem_components_expandTemplate_iff {n : Text} (hn : IsDotless n) (template : Text) :
    .up ∈ components (expandTemplate n template) ↔ .up ∈ components template := by
  rw [up_mem_components_iff, up_mem_components_iff, up_mem_laterComponents_iff,
    up_mem_laterComponents_iff, none_mem_spell_expandTemplate hn]

/-! ## Targets -/

/-- No name leads out of the root: all targets of a valid manifest lie below it, if the template is
relative and has no two dots as a component. -/
theorem Manifest.confines_targets {m : Manifest} (h : m.fault? = none)
    (hrelative : isAbsolute m.pathTemplate = false) (hup : .up ∉ components m.pathTemplate)
    (root : Text) : ∀ t ∈ m.targets root, IsBelow root t.path := by
  intro t ht
  have hm := fault?_eq_none_iff.1 h
  have hname : t.name ∈ m.extend ++ m.create := m.map_name_targets root ▸ List.mem_map_of_mem ht
  have hdotless := IsDotless.of_isControllerPath (hm.path t.name hname)
  rw [path_of_mem_targets ht, pathOf]
  refine isBelow_joinPath ?_ ?_ root
  · rw [isAbsolute_expandTemplate hdotless, hrelative]
  · rwa [up_mem_components_expandTemplate_iff hdotless]

def dotsBesideNames : Manifest where
  pathTemplate := "..\x7bname\x7d/\x7bname\x7d../.\x7bname\x7d.".toList
  extend := ["A".toList]
  create := ["Api/B".toList]

theorem Manifest.confines_targets_dotsBesideNames :
    dotsBesideNames.fault? = none ∧ isAbsolute dotsBesideNames.pathTemplate = false ∧
      .up ∉ components dotsBesideNames.pathTemplate ∧
      ∀ t ∈ dotsBesideNames.targets "../app".toList, IsBelow "../app".toList t.path := by
  have hvalid : dotsBesideNames.fault? = none := by decide +kernel
  have hrelative : isAbsolute dotsBesideNames.pathTemplate = false := by decide +kernel
  have hup : .up ∉ components dotsBesideNames.pathTemplate := by decide +kernel
  exact ⟨hvalid, hrelative, hup, Manifest.confines_targets hvalid hrelative hup _⟩

end Wiring
