import Wiring.Proofs.Injection

/-!
# Variables of the same name

A source is left alone when the class constructor has the variable of the dependency behind its type.
Behind anything else the variable does not count: `injects_iff`.
-/

namespace Wiring

def Dependency.TypeBefore (d : Dependency) (x : Text) : Prop :=
  ∃ a g, x = a ++ (d.type ++ g) ∧ isWordAt a.getLast? = false ∧ g ≠ [] ∧ ∀ c ∈ g, isBlank c = true

theorem Dependency.pair_after?_iff {d : Dependency} {s r : Text} : d.pair.after? s = some r ↔
    ∃ g, s = d.type ++ (g ++ '$' :: (d.name ++ r)) ∧ g ≠ [] ∧ ∀ c ∈ g, isBlank c = true := by
  simp only [pair, Phrase.after?, afterLinks?, Link.after?, Token.after?, Option.bind_eq_some_iff,
    after?_eq_some_iff, afterGap?_eq_some_iff, Option.some.injEq]
  constructor
  · intro h
    obtain ⟨_, rfl, _, ⟨_, ⟨g, rfl, hg, hn, -⟩, rfl⟩, rfl⟩ := h
    exact ⟨g, rfl, hn trivial, hg⟩
  · intro h
    obtain ⟨g, rfl, hn, hg⟩ := h
    refine ⟨_, rfl, _, ⟨_, ⟨g, rfl, hg, fun _ => hn, ?_⟩, rfl⟩, rfl⟩
    intro c hc
    obtain rfl := Option.some.inj hc
    decide

theorem Dependency.IsNamed.isAmong_iff_variable {d : Dependency} (hd : d.IsNamed) {l : Text} :
    d.isAmong l = true ↔ ∃ x y, l = x ++ '$' :: (d.name ++ y) ∧ isWordAt y.head? = false ∧
      d.TypeBefore x := by
  have hstands : ∀ a b : Text, d.standsAt a.reverse b = true ↔ isWordAt a.getLast? = false ∧
      ∃ r, d.pair.after? b = some r ∧ isWordAt r.head? = false := by
    intro a b
    rw [standsAt_eq, List.head?_reverse]
    cases hb : d.pair.after? b with
    | none => simp
    | some r =>
      obtain ⟨g, rfl, -⟩ := pair_after?_iff.1 hb
      simp only [isBoundary, hd.isWordAt_head?_type, hd.isWordAt_getLast?_variable]
      simp
  simp only [isAmong_iff, hstands, pair_after?_iff]
  constructor
  · intro h
    obtain ⟨a, _, rfl, ha, y, ⟨g, rfl, hg, hgb⟩, hy⟩ := h
    exact ⟨a ++ (d.type ++ g), y, by simp, hy, a, g, rfl, ha, hg, hgb⟩
  · intro h
    obtain ⟨_, y, rfl, hy, a, g, rfl, ha, hg, hgb⟩ := h
    exact ⟨a, d.type ++ (g ++ '$' :: (d.name ++ y)), by simp, ha, y, ⟨g, rfl, hg, hgb⟩, hy⟩

/-- What an injection into a source with a class constructor depends on: whether the variable stands
behind the type among the parameters, and whether there is an open constructor. The parameters are read
in masked code, so that a comment between the two counts as white space. -/
theorem Dependency.IsNamed.injects_iff {d : Dependency} (hd : d.IsNamed) {mode : Mode} {s : Text}
    {p : ParameterList} (hp : parameterList? (mask s) = some p) :
    (d.inject mode s = .skipped .present ↔ ∃ x y, p.inside = x ++ '$' :: (d.name ++ y) ∧
      isWordAt y.head? = false ∧ d.TypeBefore x) ∧
    ((∃ t, d.inject mode s = .injected t) ↔ (∀ x y, p.inside = x ++ '$' :: (d.name ++ y) →
      isWordAt y.head? = false → ¬ d.TypeBefore x) ∧ HasOpenConstructor s) := by
  have hc : declaresConstructor s = true := by simp [declaresConstructor, parameterSpan?, hp]
  have htaken : d.isTaken s = d.isAmong p.inside := by simp [isTaken, hp]
  have hrewrite : d.rewrite mode s = (firstOpen? s).map fun q => q.1 ++ q.2.append d.parameter := by
    rw [rewrite_eq, if_pos (.inr hc), appendParameter_eq]
  rw [← hd.isAmong_iff_variable, ← firstOpen?_isSome_iff_layout]
  have hnone : (∀ x y, p.inside = x ++ '$' :: (d.name ++ y) → isWordAt y.head? = false →
      ¬ d.TypeBefore x) ↔ d.isAmong p.inside = false := by
    rw [← Bool.not_eq_true, hd.isAmong_iff_variable]
    simp only [not_exists, not_and]
  rw [hnone, inject, htaken, hrewrite]
  cases d.isAmong p.inside with
  | true => simp
  | false => cases firstOpen? s <;> simp

theorem Dependency.injects_iff_openController :
    ∃ p, parameterList? (mask openController) = some p ∧
      (({} : Dependency).inject .extend openController = .skipped .present ↔
        ∃ x y, p.inside = x ++ '$' :: (({} : Dependency).name ++ y) ∧ isWordAt y.head? = false ∧
          ({} : Dependency).TypeBefore x) ∧
      ((∃ t, ({} : Dependency).inject .extend openController = .injected t) ↔
        (∀ x y, p.inside = x ++ '$' :: (({} : Dependency).name ++ y) → isWordAt y.head? = false →
          ¬ ({} : Dependency).TypeBefore x) ∧ HasOpenConstructor openController) ∧
      (∃ t, ({} : Dependency).inject .extend openController = .injected t) ∧
      HasOpenConstructor openController := by
  have hlist : (parameterList? (mask openController)).isSome = true := by decide +kernel
  obtain ⟨p, hp⟩ := Option.isSome_iff_exists.1 hlist
  obtain ⟨t, h, -⟩ := injects_openController
  obtain ⟨hskips, hinjects⟩ := @Dependency.IsNamed.injects_iff {} (by decide) .extend _ _ hp
  exact ⟨p, hp, hskips, hinjects, ⟨t, h⟩, (hinjects.1 ⟨t, h⟩).2⟩

example : ({} : Dependency).inject .extend
    "class A \x7b function __construct(CompanyContext/**/$companyContext) \x7b\x7d \x7d".toList =
      .skipped .present := by decide +kernel

def otherTypeController : Text :=
  "class A \x7b public function __construct(Company $companyContext,\n) \x7b\x7d \x7d".toList

/-- A variable of another type does not keep the parameter out. -/
theorem Dependency.injects_variable_of_other_type :
    ¬ ∀ (d : Dependency) (mode : Mode) (s : Text) (p : ParameterList), d.IsNamed →
      parameterList? (mask s) = some p →
      (∃ x y, p.inside = x ++ '$' :: (d.name ++ y) ∧ isWordAt y.head? = false) →
      ∀ t, d.inject mode s ≠ .injected t := by
  intro hall
  have hlist : parameterList? (mask otherTypeController) =
      some ⟨"class A \x7b public function __construct(".toList, "Company $companyContext,\n".toList⟩ := by
    decide +kernel
  have hinjected : (({} : Dependency).inject .extend otherTypeController).updated?.isSome = true := by
    decide +kernel
  obtain ⟨t, ht⟩ := Option.isSome_iff_exists.1 hinjected
  exact hall {} .extend _ _ (by decide) hlist ⟨"Company ".toList, ",\n".toList, by decide, by decide⟩ t
    (Outcome.updated?_eq_some_iff.1 ht)

end Wiring
