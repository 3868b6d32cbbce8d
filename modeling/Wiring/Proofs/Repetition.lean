import Wiring.Proofs.Injection

/-!
# Repeated injections

A source that a dependency was injected into is left alone from then on if the class constructor takes
the dependency or no place for it is left. Main statement: `skips_injected_iff`.
-/

namespace Wiring

def Dependency.injectAll (d : Dependency) (modes : List Mode) (s : Text) : Text :=
  modes.foldl (fun s mode =>
    match d.inject mode s with
    | .injected t => t
    | .skipped _ => s) s

/-- Whether an injection in the mode `first` leaves nothing to do for one in the mode `next`: the class
constructor takes the dependency, or there is no further place. -/
def SettledBy (first next : Mode) (s : Text) : Prop :=
  if Extends first s then
    ∃ u o, firstOpen? s = some (u, o) ∧ (InParameters (u ++ o.before) o.after ∨
      if Extends next s then firstOpen? o.rest = none else firstHeader? s = none)
  else
    ∃ u h, firstHeader? s = some (u, h) ∧ (InClassBody (u ++ h.header) h.rest ∨
      next = .extend ∧ firstOpen? (u ++ h.header) = none ∧ firstOpen? h.rest = none)

section
variable {d : Dependency} (hd : d.IsNamed) {first next : Mode} {s r : Text}
include hd

theorem Dependency.IsNamed.skips_extended_iff (htaken : d.isTaken s = false) (he : Extends first s)
    (hr : d.rewrite first s = some r) (hq : d.ImportsQuietly r) :
    (d.isTaken ((d.addUse r).getD r) = true ∨ d.rewrite next ((d.addUse r).getD r) = none) ↔
      SettledBy first next s := by
  obtain ⟨-, u, o, ho, rfl⟩ := (rewrite_cases hr).resolve_right fun h => h.1 he
  have hextends : Extends next ((d.addUse (u ++ o.append d.parameter)).getD
      (u ++ o.append d.parameter)) ↔ Extends next s := by
    rw [Extends, Extends, hq.declaresConstructor_eq, declaresConstructor_append hd ho]
  rw [hq.isTaken_eq hd, isTaken_append_iff hd ho htaken, rewrite_eq_none_iff, SettledBy, if_pos he]
  simp only [ho, Option.some.injEq, Prod.mk.injEq, hextends, hq.firstOpen?_eq_none_iff,
    hq.firstHeader?_eq_none_iff, firstOpen?_append_parameter_eq_none_iff hd ho,
    firstHeader?_append_eq_none_iff hd ho]
  constructor
  · exact fun h => ⟨u, o, ⟨rfl, rfl⟩, h⟩
  · intro h
    obtain ⟨u, o, ⟨rfl, rfl⟩, h⟩ := h
    exact h

theorem Dependency.IsNamed.skips_created_iff (he : ¬ Extends first s)
    (hr : d.rewrite first s = some r) (hq : d.ImportsQuietly r) :
    (d.isTaken ((d.addUse r).getD r) = true ∨ d.rewrite next ((d.addUse r).getD r) = none) ↔
      SettledBy first next s := by
  obtain ⟨-, u, h, hh, rfl⟩ := (rewrite_cases hr).resolve_left fun h => he h.1
  have hc : declaresConstructor s = false := by
    rw [Extends, not_or, Bool.not_eq_true] at he
    exact he.2
  have hdeclares := hd.declaresConstructor_addConstructor_iff hh hc
  have hheader := d.firstHeader?_addConstructor hh
  generalize ht : u ++ h.header ++ (d.newConstructor h.lineBreak ++ h.rest) = t at *
  have hextends : Extends next ((d.addUse t).getD t) ↔
      next = .extend ∨ InClassBody (u ++ h.header) h.rest := by
    rw [Extends, hq.declaresConstructor_eq, hdeclares]
  have hnone : ¬ firstHeader? t = none := Option.isSome_iff_ne_none.1 hheader
  rw [hq.isTaken_eq hd, rewrite_eq_none_iff, SettledBy, if_neg he]
  simp only [hh, Option.some.injEq, Prod.mk.injEq, hextends, hq.firstOpen?_eq_none_iff,
    hq.firstHeader?_eq_none_iff, hnone]
  rw [← ht, hd.isTaken_addConstructor_iff hh hc, hd.firstOpen?_addConstructor_eq_none_iff hh]
  constructor
  · intro hs
    refine ⟨u, h, ⟨rfl, rfl⟩, ?_⟩
    by_cases hin : InClassBody (u ++ h.header) h.rest
    · exact .inl hin
    · right
      have hs := hs.resolve_left hin
      split at hs
      · rename_i hx
        exact ⟨hx.resolve_right hin, hs⟩
      · exact absurd hs (by simp)
  · rintro ⟨u, h, ⟨rfl, rfl⟩, hin | ⟨rfl, hs⟩⟩
    · exact .inl hin
    · right
      rwa [if_pos (.inl rfl)]

/-- When a source that a dependency was injected into is left alone by another injection, and by any
sequence of them. -/
theorem Dependency.IsNamed.skips_injected_iff {t : Text} (h : d.inject first s = .injected t)
    (hq : ∀ r, d.rewrite first s = some r → d.ImportsQuietly r) :
    (∀ next, (∃ reason, d.inject next t = .skipped reason) ↔ SettledBy first next s) ∧
      ((∀ modes, d.injectAll modes t = t) ↔ ∀ next, SettledBy first next s) := by
  have hskips : ∀ next, (∃ reason, d.inject next t = .skipped reason) ↔ SettledBy first next s := by
    intro next
    obtain ⟨htaken, r, hr, rfl⟩ := inject_eq_injected_iff.1 h
    rw [exists_skipped_iff]
    by_cases he : Extends first s
    · exact hd.skips_extended_iff htaken he hr (hq r hr)
    · exact hd.skips_created_iff he hr (hq r hr)
  refine ⟨hskips, fun hall next => (hskips next).1 ?_, fun hall modes => ?_⟩
  · cases hi : d.inject next t with
    | skipped reason => exact ⟨reason, rfl⟩
    | injected t' =>
      have := hall [next]
      simp only [injectAll, List.foldl_cons, List.foldl_nil, hi] at this
      have hlt := length_lt_of_injected hi
      rw [this] at hlt
      exact absurd hlt (Nat.lt_irrefl _)
  · induction modes with
    | nil => rfl
    | cons next modes ih =>
      obtain ⟨reason, hr⟩ := (hskips next).2 (hall next)
      simpa only [injectAll, List.foldl_cons, hr] using ih

end

theorem Dependency.skips_injected_openController :
    ∃ t, ({} : Dependency).inject .extend openController = .injected t ∧
      (∀ next, (∃ reason, ({} : Dependency).inject next t = .skipped reason) ↔
        SettledBy .extend next openController) ∧
      ((∀ modes, ({} : Dependency).injectAll modes t = t) ↔
        ∀ next, SettledBy .extend next openController) ∧
      (∀ modes, ({} : Dependency).injectAll modes t = t) ∧
      ∀ next, SettledBy .extend next openController := by
  obtain ⟨t, h, htaken⟩ := Dependency.injects_openController
  obtain ⟨hskips, hall⟩ := Dependency.IsNamed.skips_injected_iff (by decide) h fun r _ =>
    Dependency.importsQuietly_of_none rfl r
  have hsettled : ∀ next, SettledBy .extend next openController := fun next =>
    (hskips next).1 ⟨.present, by rw [Dependency.inject, if_pos htaken]⟩
  exact ⟨t, h, hskips, hall, hall.2 hsettled, hsettled⟩

/-- After an injection into a comment the next one goes to the constructor. -/
theorem Dependency.not_skips_injected_commentedController :
    ¬ ∀ (d : Dependency) (first next : Mode) (s t : Text), d.IsNamed →
      d.inject first s = .injected t → ∃ reason, d.inject next t = .skipped reason := by
  intro hall
  have hagain : ((({} : Dependency).inject .extend commentedController).updated?.any fun t =>
      (({} : Dependency).inject .extend t).updated?.isSome) = true := by decide +kernel
  obtain ⟨t, ht, htwice⟩ := (Option.any_eq_true _ _).1 hagain
  obtain ⟨reason, hskip⟩ := hall {} .extend .extend commentedController t (by decide)
    (Outcome.updated?_eq_some_iff.1 ht)
  rw [hskip] at htwice
  cases htwice

end Wiring
