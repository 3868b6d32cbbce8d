import Wiring.Manifest.Validity

/-!
# Valid manifests

A manifest without a fault has a template with a placeholder, a dependency of two identifiers, and
names that are different paths of controllers.
-/

namespace Wiring

theorem nameFault?_eq_none_iff {others seen names : List Text} :
    nameFault? others seen names = none ↔
      (∀ n ∈ names, isControllerPath n ∧ n ∉ others ∧ n ∉ seen) ∧ names.Nodup := by
  induction names generalizing seen with
  | nil => simp [nameFault?]
  | cons n names ih =>
    by_cases hn : isControllerPath n
    · by_cases hothers : n ∈ others
      · simp [nameFault?, hn, hothers]
      · by_cases hseen : n ∈ seen
        · simp [nameFault?, hn, hothers, hseen]
        · rw [List.forall_mem_cons, List.nodup_cons]
          simp only [nameFault?, hn, hothers, hseen, not_true, if_false, ih, List.mem_cons, not_or,
            not_false_eq_true, and_self, true_and]
          constructor
          · intro h
            obtain ⟨h, hnodup⟩ := h
            exact ⟨fun k hk => ⟨(h k hk).1, (h k hk).2.1, (h k hk).2.2.2⟩,
              fun hm => (h n hm).2.2.1 rfl, hnodup⟩
          · intro h
            obtain ⟨h, hm, hnodup⟩ := h
            exact ⟨fun k hk => ⟨(h k hk).1, (h k hk).2.1, fun he => hm (he ▸ hk), (h k hk).2.2⟩,
              hnodup⟩
    · simp [nameFault?, hn]

structure Manifest.IsValid (m : Manifest) : Prop where
  template : hasPlaceholder m.pathTemplate
  type : isIdentifier m.dependency.type
  name : isIdentifier m.dependency.name
  path : ∀ n ∈ m.extend ++ m.create, isControllerPath n
  nodup : (m.extend ++ m.create).Nodup

theorem Manifest.fault?_eq_none_iff {m : Manifest} : m.fault? = none ↔ m.IsValid := by
  unfold Manifest.fault?
  by_cases ht : hasPlaceholder m.pathTemplate
  · by_cases htype : isIdentifier m.dependency.type
    · by_cases hname : isIdentifier m.dependency.name
      · simp only [ht, htype, hname, not_true, if_false, Option.or_eq_none_iff,
          nameFault?_eq_none_iff]
        constructor
        · intro h'
          obtain ⟨⟨he, hen⟩, hc, hcn⟩ := h'
          refine ⟨ht, htype, hname, ?_, List.nodup_append.2 ⟨hen, hcn, ?_⟩⟩
          · intro n hn
            exact (List.mem_append.1 hn).elim (fun h => (he n h).1) (fun h => (hc n h).1)
          · rintro n hn k hk rfl
            exact (hc n hk).2.1 hn
        · intro h'
          obtain ⟨-, -, -, hpath, hnodup⟩ := h'
          obtain ⟨hen, hcn, hne⟩ := List.nodup_append.1 hnodup
          refine ⟨⟨fun n hn => ⟨hpath n (List.mem_append_left _ hn), by simp, by simp⟩, hen⟩,
            fun n hn => ⟨hpath n (List.mem_append_right _ hn), ?_, by simp⟩, hcn⟩
          exact fun h => hne n h n hn rfl
      · simpa [ht, htype, hname] using fun h : m.IsValid => hname h.name
    · simpa [ht, htype] using fun h : m.IsValid => htype h.type
  · simpa [ht] using fun h : m.IsValid => ht h.template

end Wiring
