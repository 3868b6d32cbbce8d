import Wiring.Proofs.Import

/-!
# What an injection reaches

An injection goes to the first open constructor, or after the first class header. Whether the class
constructor takes the dependency afterwards is decided by where that place lies:
`isTaken_iff_of_injected`.
-/

namespace Wiring

def Extends (mode : Mode) (s : Text) : Prop := mode = .extend ∨ declaresConstructor s = true

instance (mode : Mode) (s : Text) : Decidable (Extends mode s) := inferInstanceAs (Decidable (_ ∨ _))

def Outcome.updated? : Outcome → Option Text
  | .injected t => some t
  | .skipped _ => none

theorem Outcome.updated?_eq_some_iff {o : Outcome} {t : Text} :
    o.updated? = some t ↔ o = .injected t := by
  cases o <;> simp [updated?]

theorem Outcome.isSome_updated?_iff {o : Outcome} :
    o.updated?.isSome = true ↔ ∃ t, o = .injected t := by
  simp only [Option.isSome_iff_exists, updated?_eq_some_iff]

section
variable {d : Dependency} {mode : Mode} {s t : Text}

theorem Dependency.rewrite_eq (d : Dependency) (mode : Mode) (s : Text) :
    d.rewrite mode s = if Extends mode s then d.appendParameter s else d.addConstructor s := by
  cases mode <;> simp [rewrite, Extends]

/-- A source is changed in its first open constructor, or after its first class header. -/
theorem Dependency.rewrite_cases {r : Text} (h : d.rewrite mode s = some r) :
    (Extends mode s ∧ ∃ u o, firstOpen? s = some (u, o) ∧ r = u ++ o.append d.parameter) ∨
      (¬ Extends mode s ∧ ∃ u o, firstHeader? s = some (u, o) ∧
        r = u ++ o.header ++ (d.newConstructor o.lineBreak ++ o.rest)) := by
  rw [rewrite_eq] at h
  split at h
  · rename_i he
    rw [appendParameter_eq] at h
    obtain ⟨⟨u, o⟩, ho, rfl⟩ := Option.map_eq_some_iff.1 h
    exact .inl ⟨he, u, o, ho, rfl⟩
  · rename_i he
    rw [addConstructor_eq] at h
    obtain ⟨⟨u, o⟩, ho, rfl⟩ := Option.map_eq_some_iff.1 h
    exact .inr ⟨he, u, o, ho, rfl⟩

theorem Dependency.rewrite_eq_none_iff : d.rewrite mode s = none ↔
    if Extends mode s then firstOpen? s = none else firstHeader? s = none := by
  rw [rewrite_eq]
  split
  · rw [appendParameter_eq, Option.map_eq_none_iff]
  · rw [addConstructor_eq, Option.map_eq_none_iff]

theorem Dependency.inject_eq_injected_iff : d.inject mode s = .injected t ↔
    d.isTaken s = false ∧ ∃ r, d.rewrite mode s = some r ∧ t = (d.addUse r).getD r := by
  unfold inject
  cases d.isTaken s with
  | true => simp
  | false =>
    cases d.rewrite mode s with
    | none => simp
    | some r => simp [eq_comm]

theorem Dependency.exists_skipped_iff : (∃ reason, d.inject mode s = .skipped reason) ↔
    d.isTaken s = true ∨ d.rewrite mode s = none := by
  unfold inject
  cases d.isTaken s with
  | true => simp
  | false => cases d.rewrite mode s <;> simp

/-! ## A change is a real change -/

def Inserts (w s t : Text) : Prop := ∃ a b, s = a ++ b ∧ t = a ++ (w ++ b)

theorem Inserts.length_eq {w : Text} (h : Inserts w s t) : t.length = s.length + w.length := by
  obtain ⟨a, b, rfl, rfl⟩ := h
  simp only [List.length_append]
  omega

theorem Dependency.parameter_ne_nil (d : Dependency) : d.parameter ≠ [] := by
  rw [parameter_eq]
  exact List.append_ne_nil_of_left_ne_nil (by decide) _

theorem Dependency.exists_inserts_of_rewrite {r : Text} (h : d.rewrite mode s = some r) :
    ∃ w, Inserts w s r ∧ d.parameter <:+: w := by
  rcases rewrite_cases h with ⟨-, u, o, ho, rfl⟩ | ⟨-, u, o, ho, rfl⟩
  · obtain ⟨rfl, -⟩ := firstOpen?_eq_some ho
    refine ⟨d.line o, ⟨u ++ o.before, o.after, ?_, ?_⟩, o.indent, o.lineBreak ++ o.closingIndent, ?_⟩
    · rw [List.append_assoc, o.before_append_after]
    · rw [d.append_parameter, List.append_assoc]
    · simp only [line, List.append_assoc]
  · obtain ⟨rfl, -⟩ := firstHeader?_eq_some ho
    refine ⟨d.newConstructor o.lineBreak, ⟨u ++ o.header, o.rest, rfl, rfl⟩, ?_⟩
    rw [newConstructor_eq]
    have hlist : d.parameter <:+: d.newList o.lineBreak :=
      ⟨o.lineBreak ++ List.replicate 8 ' ', o.lineBreak ++ List.replicate 4 ' ', by
        simp only [newList, List.append_assoc]⟩
    exact hlist.trans ⟨newOpening, ')' :: newClosing o.lineBreak, List.append_assoc ..⟩

theorem Dependency.length_lt_of_rewrite {r : Text} (h : d.rewrite mode s = some r) :
    s.length < r.length := by
  obtain ⟨w, hw, hp⟩ := exists_inserts_of_rewrite h
  have := List.length_pos_iff.2 d.parameter_ne_nil
  have := hp.length_le
  have := hw.length_eq
  omega

theorem Dependency.length_le_addUse (d : Dependency) (s : Text) :
    s.length ≤ ((d.addUse s).getD s).length := by
  cases h : d.addUse s with
  | none => exact Nat.le_refl _
  | some t =>
    obtain ⟨name, a, w, b, -, -, hs, ht, -⟩ := addUse_eq_some h
    have := Inserts.length_eq ⟨a, b, hs, ht⟩
    rw [Option.getD_some]
    omega

theorem Dependency.length_lt_of_injected (h : d.inject mode s = .injected t) :
    s.length < t.length := by
  obtain ⟨-, r, hr, rfl⟩ := inject_eq_injected_iff.1 h
  exact Nat.lt_of_lt_of_le (length_lt_of_rewrite hr) (d.length_le_addUse r)

end

/-! ## The class constructor -/

/-- Whether the first open constructor of a source is open in the code of the parameters of the class
constructor. -/
def ReachesParameters (s : Text) : Prop :=
  ∃ u o, firstOpen? s = some (u, o) ∧ InParameters (u ++ o.before) o.after

/-- A source with a class constructor takes an injected dependency exactly when the first open
constructor is the class constructor. -/
theorem Dependency.IsNamed.isTaken_iff_of_injected {d : Dependency} (hd : d.IsNamed) {mode : Mode}
    {s t : Text} (hc : declaresConstructor s = true) (h : d.inject mode s = .injected t) :
    ∃ r, d.rewrite mode s = some r ∧ t = (d.addUse r).getD r ∧
      (d.isTaken r = true ↔ ReachesParameters s) ∧
      (d.ImportsQuietly r → (d.isTaken t = true ↔ ReachesParameters s)) := by
  obtain ⟨htaken, r, hr, rfl⟩ := inject_eq_injected_iff.1 h
  have hreach : d.isTaken r = true ↔ ReachesParameters s := by
    rw [rewrite_eq, if_pos (.inr hc), appendParameter_eq] at hr
    obtain ⟨⟨u, o⟩, ho, rfl⟩ := Option.map_eq_some_iff.1 hr
    rw [isTaken_append_iff hd ho htaken]
    simp [ReachesParameters, ho]
  exact ⟨r, hr, rfl, hreach, fun hq => by rw [hq.isTaken_eq hd, hreach]⟩

def openController : Text := joinWith ['\n'] [
  "class BadgeController extends AbstractController".toList,
  "\x7b".toList,
  "    public function __construct(".toList,
  "        private readonly BadgeRepository $badges,".toList,
  "    ) \x7b".toList,
  "    \x7d".toList,
  "\x7d".toList,
  []]

theorem Dependency.injects_openController :
    ∃ t, ({} : Dependency).inject .extend openController = .injected t ∧
      ({} : Dependency).isTaken t = true := by
  have hinjected : (({} : Dependency).inject .extend openController).updated?.any
      ({} : Dependency).isTaken = true := by decide +kernel
  obtain ⟨t, ht, htaken⟩ := (Option.any_eq_true _ _).1 hinjected
  exact ⟨t, Outcome.updated?_eq_some_iff.1 ht, htaken⟩

theorem Dependency.isTaken_iff_of_injected_openController :
    ∃ t, ({} : Dependency).inject .extend openController = .injected t ∧
      ∃ r, ({} : Dependency).rewrite .extend openController = some r ∧
        t = (({} : Dependency).addUse r).getD r ∧
        (({} : Dependency).isTaken r = true ↔ ReachesParameters openController) ∧
        (({} : Dependency).ImportsQuietly r →
          (({} : Dependency).isTaken t = true ↔ ReachesParameters openController)) ∧
        ({} : Dependency).isTaken t = true ∧ ReachesParameters openController := by
  obtain ⟨t, h, htaken⟩ := injects_openController
  obtain ⟨r, hr, hadd, hreach, hquiet⟩ :=
    Dependency.IsNamed.isTaken_iff_of_injected (by decide) (by decide +kernel) h
  exact ⟨t, h, r, hr, hadd, hreach, hquiet, htaken, (hquiet (importsQuietly_of_none rfl r)).1 htaken⟩

/-- A controller with a former constructor in a comment, open for another parameter like the real one. -/
def commentedController : Text := joinWith ['\n'] [
  "class BadgeController extends AbstractController".toList,
  "\x7b".toList,
  "    /*".toList,
  "    public function __construct(".toList,
  "        private readonly BadgeRepository $badges,".toList,
  "    ) \x7b".toList,
  "    \x7d".toList,
  "    */".toList,
  [],
  "    public function __construct(".toList,
  "        private readonly BadgeRepository $badges,".toList,
  "        private readonly Clock $clock,".toList,
  "    ) \x7b".toList,
  "    \x7d".toList,
  "\x7d".toList,
  []]

theorem Dependency.not_isTaken_of_injected_commentedController :
    ¬ ∀ (d : Dependency) (mode : Mode) (s t : Text), d.IsNamed → declaresConstructor s = true →
      d.inject mode s = .injected t → d.isTaken t = true := by
  intro hall
  have hlost : ((({} : Dependency).inject .extend commentedController).updated?.any
      fun t => !({} : Dependency).isTaken t) = true := by decide +kernel
  obtain ⟨t, ht, hnot⟩ := (Option.any_eq_true _ _).1 hlost
  have h := Outcome.updated?_eq_some_iff.1 ht
  rw [hall {} .extend commentedController t (by decide) (by decide +kernel) h] at hnot
  cases hnot

end Wiring
