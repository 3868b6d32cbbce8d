import Wiring.Proofs.Template

/-!
# Paths that are the same

Paths with the same components are spelled alike, and lead to the same path from every root:
`samePath_joinPath`.
-/

namespace Wiring

/-- The components of a path that do not depend on where it starts. -/
def laterComponents (path : Text) : List Component :=
  (pieces '/' path).filterMap Component.ofSegment?

theorem components_eq (path : Text) :
    components path = leadingComponents path ++ laterComponents path := rfl

theorem samePath_iff {p q : Text} : samePath p q = true ↔ components p = components q := by
  rw [samePath, beq_iff_eq]

/-! ## The start of a path -/

def Component.isLeading : Component → Bool
  | .root | .here => true
  | _ => false

theorem Component.isLeading_of_ofSegment? {segment : Text} {c : Component}
    (h : ofSegment? segment = some c) : c.isLeading = false := by
  unfold ofSegment? at h
  split at h
  · cases h
  · split at h <;> cases h <;> rfl

theorem isLeading_of_mem_leadingComponents {path : Text} {c : Component}
    (h : c ∈ leadingComponents path) : c.isLeading = true := by
  unfold leadingComponents at h
  split at h
  · rw [List.mem_singleton.1 h]; rfl
  · split at h
    · rw [List.mem_singleton.1 h]; rfl
    · cases h

theorem isLeading_of_mem_laterComponents {path : Text} {c : Component}
    (h : c ∈ laterComponents path) : c.isLeading = false := by
  obtain ⟨segment, -, hc⟩ := List.mem_filterMap.1 h
  exact Component.isLeading_of_ofSegment? hc

theorem components_eq_iff {p q : Text} : components p = components q ↔
    leadingComponents p = leadingComponents q ∧ laterComponents p = laterComponents q := by
  -- whether a component is a leading one tells where the start of a path ends
  have hleading : ∀ path, (components path).filter (·.isLeading) = leadingComponents path := by
    intro path
    have hlater : (laterComponents path).filter (·.isLeading) = [] :=
      List.filter_eq_nil_iff.2 fun c hc => by simp [isLeading_of_mem_laterComponents hc]
    rw [components_eq, List.filter_append, hlater, List.append_nil]
    exact List.filter_eq_self.2 fun _ => isLeading_of_mem_leadingComponents
  constructor
  · intro h
    have hstart : leadingComponents p = leadingComponents q := by rw [← hleading, h, hleading]
    rw [components_eq, components_eq, hstart] at h
    exact ⟨hstart, List.append_cancel_left h⟩
  · intro h
    rw [components_eq, components_eq, h.1, h.2]

theorem root_mem_leadingComponents_iff {path : Text} :
    .root ∈ leadingComponents path ↔ isAbsolute path = true := by
  unfold leadingComponents
  split
  · simp [*]
  · split <;> simp [*]

theorem isAbsolute_eq_of_leadingComponents {p q : Text}
    (h : leadingComponents p = leadingComponents q) : isAbsolute p = isAbsolute q := by
  rw [Bool.eq_iff_iff, ← root_mem_leadingComponents_iff, h, root_mem_leadingComponents_iff]

/-! ## The spelling of a path -/

def Component.spell : Component → List (Option Char)
  | .up => [none]
  | .name segment => segment.map some ++ [some '/']
  | _ => []

theorem spellSegment_eq (segment : Text) :
    spellSegment segment = ((Component.ofSegment? segment).map Component.spell).getD [] := by
  unfold spellSegment
  cases Component.ofSegment? segment with
  | none => rfl
  | some c => cases c <;> rfl

theorem spell_eq_flatMap (path : Text) :
    spell .start path = (laterComponents path).flatMap Component.spell := by
  rw [← flatMap_spellSegment, laterComponents]
  induction pieces '/' path with
  | nil => rfl
  | cons segment segments ih =>
    rw [List.flatMap_cons, List.filterMap_cons, spellSegment_eq, ih]
    cases Component.ofSegment? segment <;> simp

theorem spell_eq_of_samePath {p q : Text} (h : samePath p q = true) :
    spell .start p = spell .start q := by
  rw [spell_eq_flatMap, spell_eq_flatMap, (components_eq_iff.1 (samePath_iff.1 h)).2]

/-! ## Paths from a root -/

theorem laterComponents_append (r s : Text) :
    laterComponents (r ++ '/' :: s) = laterComponents r ++ laterComponents s := by
  rw [laterComponents, pieces_append, List.filterMap_append]
  rfl

theorem leadingComponents_append (r s : Text) :
    leadingComponents (r ++ '/' :: s) = leadingComponents (if r = [] then ['/'] else r) := by
  cases r with
  | nil => rfl
  | cons c r =>
    have hpieces : (pieces '/' (c :: r) ++ pieces '/' s).head? = (pieces '/' (c :: r)).head? := by
      rw [List.head?_append, List.head?_eq_some_head (pieces_ne_nil '/' _), Option.some_or]
    rw [leadingComponents, pieces_append, hpieces]
    rfl

/-- A relative path goes on where its root ends. -/
theorem components_joinPath {root path : Text} (hroot : root ≠ []) (hpath : isAbsolute path = false) :
    components (joinPath root path) = components root ++ laterComponents path := by
  have hslash : ∀ r, leadingComponents (r ++ '/' :: path) = leadingComponents (r ++ ['/']) ∧
      laterComponents (r ++ ['/']) = laterComponents r := fun r => by
    rw [leadingComponents_append, leadingComponents_append, laterComponents_append]
    exact ⟨rfl, List.append_nil _⟩
  obtain ⟨r, z, rfl⟩ := (List.eq_nil_or_concat root).resolve_left hroot
  rw [List.concat_eq_append, joinPath, if_neg (by simp [hpath])]
  by_cases hz : z = '/'
  · subst hz
    rw [if_pos (.inr List.getLast?_concat), List.append_assoc, List.singleton_append, components_eq,
      components_eq, (hslash r).1, (hslash r).2, laterComponents_append, List.append_assoc]
  · rw [if_neg (by simpa using hz), components_eq, leadingComponents_append, if_neg (by simp),
      laterComponents_append, ← List.append_assoc, components_eq]

theorem joinPath_eq_self {root path : Text} (h : root = [] ∨ isAbsolute path = true) :
    joinPath root path = path := by
  rw [joinPath]
  split
  · rfl
  · rename_i habs
    rw [h.resolve_right habs, if_pos (.inl rfl), List.nil_append]

theorem samePath_joinPath {p q : Text} (h : samePath p q = true) (root : Text) :
    samePath (joinPath root p) (joinPath root q) = true := by
  obtain ⟨hleading, hlater⟩ := components_eq_iff.1 (samePath_iff.1 h)
  have habs := isAbsolute_eq_of_leadingComponents hleading
  by_cases hself : root = [] ∨ isAbsolute p = true
  · rwa [joinPath_eq_self hself, joinPath_eq_self (habs ▸ hself)]
  · obtain ⟨hroot, hp⟩ := not_or.1 hself
    rw [Bool.not_eq_true] at hp
    rw [samePath_iff, components_joinPath hroot hp, components_joinPath hroot (habs ▸ hp), hlater]

end Wiring
