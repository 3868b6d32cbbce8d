import Wiring.FixPlan
import Wiring.Proofs.Location
import Wiring.Proofs.Path

/-!
# What is scheduled and what is run

The targets of a valid manifest have different paths, and a path is scheduled in a mode exactly when
one target stands at it, in that mode. Main statements: `Manifest.pairwise_paths_differ` and
`Manifest.schedules_targets`.
-/

namespace Wiring

section
variable {m : Manifest} {root : Text}

theorem Manifest.mem_targets_iff {t : Target} : t ∈ m.targets root ↔
    t.name ∈ m.names t.mode ∧ t.path = m.pathOf root t.name := by
  obtain ⟨name, mode, path⟩ := t
  simp only [targets, targetsOf, List.mem_append, List.mem_map, Target.mk.injEq]
  constructor
  · rintro (⟨n, hn, rfl, rfl, rfl⟩ | ⟨n, hn, rfl, rfl, rfl⟩) <;> exact ⟨hn, rfl⟩
  · intro h
    obtain ⟨hn, rfl⟩ := h
    cases mode
    · exact .inl ⟨name, hn, rfl, rfl, rfl⟩
    · exact .inr ⟨name, hn, rfl, rfl, rfl⟩

theorem Manifest.lists_iff {mode : Mode} {path : Text} : m.lists mode path = true ↔
    ∃ n ∈ m.names mode, samePath (expandTemplate n m.pathTemplate) path = true := List.any_eq_true

theorem Manifest.mem_of_mem_names {n : Text} {mode : Mode} (h : n ∈ m.names mode) :
    n ∈ m.extend ++ m.create := by
  cases mode
  · exact List.mem_append_left _ h
  · exact List.mem_append_right _ h

/-! ## Different paths -/

section
variable (hm : m.IsValid) {n n' : Text} (hn : n ∈ m.extend ++ m.create) (hn' : n' ∈ m.extend ++ m.create)
include hm hn hn'

theorem Manifest.IsValid.eq_of_samePath_expandTemplate
    (h : samePath (expandTemplate n m.pathTemplate) (expandTemplate n' m.pathTemplate) = true) :
    n = n' :=
  expandTemplate_injective (.of_isControllerPath (hm.path n hn)) (.of_isControllerPath (hm.path n' hn'))
    hm.template (spell_eq_of_samePath h)

theorem Manifest.IsValid.eq_of_samePath_pathOf
    (h : samePath (m.pathOf root n) (m.pathOf root n') = true) : n = n' := by
  have hdotless := IsDotless.of_isControllerPath (hm.path n hn)
  have hdotless' := IsDotless.of_isControllerPath (hm.path n' hn')
  -- both paths start alike, at the root of the disk or at the root that is given
  have hspell := spell_eq_of_samePath h
  rw [pathOf, pathOf, spell_joinPath, spell_joinPath, isAbsolute_expandTemplate hdotless,
    isAbsolute_expandTemplate hdotless'] at hspell
  exact expandTemplate_injective hdotless hdotless' hm.template (List.append_cancel_left hspell)

end

/-- No file is handled twice: the targets of a valid manifest have different paths. -/
theorem Manifest.pairwise_paths_differ (h : m.fault? = none) (root : Text) :
    (m.targets root).Pairwise fun t u => samePath t.path u.path = false := by
  have hm := fault?_eq_none_iff.1 h
  refine hm.pairwise_targets (R := fun p q => samePath p q = false) fun n hn n' hn' hne => ?_
  rw [← Bool.not_eq_true]
  exact fun hsame => hne (hm.eq_of_samePath_pathOf hn hn' hsame)

def dottedTemplate : Manifest where
  pathTemplate := ".\x7bname\x7d//./\x7bname\x7d.php".toList
  extend := ["A".toList, "A/A".toList]
  create := ["B".toList]

theorem Manifest.pairwise_paths_differ_dottedTemplate : dottedTemplate.fault? = none ∧
    (dottedTemplate.targets "app/".toList).Pairwise fun t u => samePath t.path u.path = false := by
  have hvalid : dottedTemplate.fault? = none := by decide +kernel
  exact ⟨hvalid, Manifest.pairwise_paths_differ hvalid _⟩

/-! ## Modes -/

theorem Manifest.IsValid.modeAt_eq_some_iff (hm : m.IsValid) {mode : Mode} {path : Text} :
    m.modeAt path = some mode ↔ m.lists mode path = true := by
  have hone : m.lists .create path = true → m.lists .extend path = false := by
    rw [← Bool.not_eq_true, lists_iff, lists_iff]
    intro h h'
    obtain ⟨n, hn, hnp⟩ := h
    obtain ⟨n', hn', hnp'⟩ := h'
    have hsame : samePath (expandTemplate n m.pathTemplate) (expandTemplate n' m.pathTemplate) = true := by
      rw [samePath_iff] at hnp hnp' ⊢
      rw [hnp, hnp']
    obtain rfl := hm.eq_of_samePath_expandTemplate (mem_of_mem_names hn) (mem_of_mem_names hn') hsame
    exact (List.nodup_append.1 hm.nodup).2.2 n hn' n hn rfl
  unfold modeAt
  cases mode with
  | extend => by_cases hext : m.lists .extend path <;> simp [hext]
  | create =>
    by_cases hcre : m.lists .create path
    · simp [hcre, hone hcre]
    · by_cases hext : m.lists .extend path <;> simp [hcre, hext]

/-- Among the targets only one has the path of a target. -/
theorem Manifest.IsValid.filter_samePath_eq (hm : m.IsValid) {t : Target} (ht : t ∈ m.targets root)
    {path : Text} (h : samePath t.path path = true) :
    (m.targets root).filter (fun u => samePath u.path path) = [t] := by
  have hother : ∀ u ∈ m.targets root, samePath u.path path = true → u.name = t.name := by
    intro u hu hup
    have hsame : samePath u.path t.path = true := by
      rw [samePath_iff] at h hup ⊢
      rw [h, hup]
    rw [path_of_mem_targets ht, path_of_mem_targets hu] at hsame
    exact hm.eq_of_samePath_pathOf (mem_of_mem_names (mem_targets_iff.1 hu).1)
      (mem_of_mem_names (mem_targets_iff.1 ht).1) hsame
  have hnodup : ((m.targets root).map (·.name)).Nodup := (m.map_name_targets root).symm ▸ hm.nodup
  obtain ⟨before, after, hsplit⟩ := List.append_of_mem ht
  rw [hsplit] at hnodup hother ⊢
  simp only [List.map_append, List.map_cons, List.nodup_append, List.nodup_cons] at hnodup
  obtain ⟨-, ⟨hafter, -⟩, hbefore⟩ := hnodup
  have hnone : before.filter (fun u => samePath u.path path) = [] :=
    List.filter_eq_nil_iff.2 fun u hu hup =>
      hbefore u.name (List.mem_map_of_mem hu) t.name List.mem_cons_self (hother u (by simp [hu]) hup)
  have hnone' : after.filter (fun u => samePath u.path path) = [] :=
    List.filter_eq_nil_iff.2 fun u hu hup =>
      hafter (hother u (by simp [hu]) hup ▸ List.mem_map_of_mem hu)
  rw [List.filter_append, List.filter_cons, if_pos h, hnone, hnone', List.nil_append]

theorem Manifest.IsValid.exists_filter_eq_of_modeAt (hm : m.IsValid) {mode : Mode} {path : Text}
    (h : m.modeAt path = some mode) (root : Text) :
    ∃ t, (m.targets root).filter (fun u => samePath u.path (joinPath root path)) = [t] ∧
      t.mode = mode := by
  obtain ⟨n, hn, hsame⟩ := lists_iff.1 (hm.modeAt_eq_some_iff.1 h)
  refine ⟨⟨n, mode, m.pathOf root n⟩, hm.filter_samePath_eq (mem_targets_iff.2 ⟨hn, rfl⟩) ?_, rfl⟩
  exact samePath_joinPath hsame root

/-- A plan and a run agree on what is scheduled: the path of each target, without the root, is
scheduled in its mode, and a path that is scheduled belongs to one target, of the same mode. So a plan
shows no controller in another mode than the one it is handled in. -/
theorem Manifest.schedules_targets (h : m.fault? = none) (root : Text) :
    (∀ t ∈ m.targets root, m.modeAt (expandTemplate t.name m.pathTemplate) = some t.mode) ∧
    (∀ path mode, m.modeAt path = some mode →
      ∃ t, (m.targets root).filter (fun u => samePath u.path (joinPath root path)) = [t] ∧
        t.mode = mode) ∧
    ∀ c ∈ m.plan.controllers, ∀ mode, c.mode = some mode → ∀ t ∈ m.targets root,
      samePath t.path (joinPath root c.controller) = true → t.mode = mode := by
  have hm := fault?_eq_none_iff.1 h
  refine ⟨fun t ht => ?_, fun path mode hmode => hm.exists_filter_eq_of_modeAt hmode root, ?_⟩
  · refine hm.modeAt_eq_some_iff.2 (lists_iff.2 ⟨t.name, (mem_targets_iff.1 ht).1, ?_⟩)
    exact samePath_iff.2 rfl
  · intro c hc mode hmode t ht hsame
    obtain ⟨controller, -, rfl⟩ := List.mem_map.1 hc
    obtain ⟨u, hu, rfl⟩ := hm.exists_filter_eq_of_modeAt hmode root
    have hmem : t ∈ (m.targets root).filter (fun u => samePath u.path (joinPath root controller)) :=
      List.mem_filter.2 ⟨ht, hsame⟩
    rw [hu] at hmem
    rw [List.mem_singleton.1 hmem]

end

def fixedController : Manifest where
  extend := ["A".toList]
  create := ["Api/B".toList]
  fixes := [⟨"src//Controller/A.php".toList, "Order".toList, "add".toList, 3, none⟩]

theorem Manifest.schedules_targets_fixedController :
    let path := "src//Controller/A.php".toList
    let targets := fixedController.targets "app".toList
    fixedController.fault? = none ∧ fixedController.modeAt path = some .extend ∧
      ⟨path, some .extend⟩ ∈ fixedController.plan.controllers ∧
      (∀ t ∈ targets, fixedController.modeAt (expandTemplate t.name fixedController.pathTemplate) =
        some t.mode) ∧
      (∃ t, targets.filter (fun u => samePath u.path (joinPath "app".toList path)) = [t] ∧
        t.mode = .extend) ∧
      ∀ t ∈ targets, samePath t.path (joinPath "app".toList path) = true → t.mode = .extend := by
  intro path targets
  have hvalid : fixedController.fault? = none := by decide +kernel
  have hmode : fixedController.modeAt path = some .extend := by decide +kernel
  have hplan : ⟨path, some .extend⟩ ∈ fixedController.plan.controllers := by decide +kernel
  obtain ⟨hscheduled, hone, hshown⟩ := Manifest.schedules_targets hvalid "app".toList
  exact ⟨hvalid, hmode, hplan, hscheduled, hone path _ hmode, hshown _ hplan _ rfl⟩

end Wiring
