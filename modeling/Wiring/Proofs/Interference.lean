import Wiring.Proofs.Variable

/-!
# Other dependencies

At one place of a parameter list stands the variable of one dependency at most. So the parameter that
an injection adds makes no difference to the recognition of any other: `isTaken_eq_of_injected`.
-/

namespace Wiring

/-! ## The variable at a place -/

def Dependency.VariableAt (d : Dependency) (x s : Text) : Prop :=
  d.TypeBefore x ∧ ∃ r, s = '$' :: (d.name ++ r) ∧ isWordAt r.head? = false

theorem Dependency.IsNamed.isAmong_iff_variableAt {d : Dependency} (hd : d.IsNamed) {l : Text} :
    d.isAmong l = true ↔ ∃ x s, l = x ++ s ∧ d.VariableAt x s := by
  rw [hd.isAmong_iff_variable]
  constructor
  · intro h
    obtain ⟨x, r, hl, hr, hx⟩ := h
    exact ⟨x, _, hl, hx, r, rfl, hr⟩
  · intro h
    obtain ⟨x, s, hl, hx, r, rfl, hr⟩ := h
    exact ⟨x, r, hl, hr, hx⟩

/-- A prefix of one kind of characters, when another kind comes next. -/
theorem eq_of_append_of_stop {p : Char → Bool} {u u' r r' : Text} (hu : ∀ c ∈ u, p c = true)
    (hu' : ∀ c ∈ u', p c = true) (hr : ∀ c ∈ r.head?, p c = false) (hr' : ∀ c ∈ r'.head?, p c = false)
    (h : u ++ r = u' ++ r') : u = u' ∧ r = r' := by
  obtain ⟨h₁, h₂⟩ := takeWhile_append_stop hu hr
  obtain ⟨h₁', h₂'⟩ := takeWhile_append_stop hu' hr'
  rw [h] at h₁ h₂
  exact ⟨h₁.symm.trans h₁', h₂.symm.trans h₂'⟩

theorem eq_of_append_of_stop_before {p : Char → Bool} {u u' r r' : Text} (hu : ∀ c ∈ u, p c = true)
    (hu' : ∀ c ∈ u', p c = true) (hr : ∀ c ∈ r.getLast?, p c = false)
    (hr' : ∀ c ∈ r'.getLast?, p c = false) (h : r ++ u = r' ++ u') : r = r' ∧ u = u' := by
  have hreverse : u.reverse ++ r.reverse = u'.reverse ++ r'.reverse := by
    rw [← List.reverse_append, ← List.reverse_append, h]
  obtain ⟨h₁, h₂⟩ := eq_of_append_of_stop (by simpa using hu) (by simpa using hu') (by simpa using hr)
    (by simpa using hr') hreverse
  exact ⟨List.reverse_injective h₂, List.reverse_injective h₁⟩

theorem isWordAt_eq_false_iff {c : Option Char} : isWordAt c = false ↔ ∀ e ∈ c, isWord e = false := by
  cases c <;> simp [isWordAt]

section
variable {d d' : Dependency} (hd : d.IsNamed) {x s : Text}
include hd

theorem Dependency.IsNamed.isWord_of_mem {c : Char} (hc : c ∈ d.type ∨ c ∈ d.name) :
    isWord c = true := by
  rcases hc with hc | hc
  · exact isWord_of_isAsciiWord ((isAsciiWord_of_isIdentifier hd.1).2 c hc)
  · exact isWord_of_isAsciiWord ((isAsciiWord_of_isIdentifier hd.2).2 c hc)

theorem Dependency.IsNamed.isBlank_getLast?_type (a : Text) :
    ∀ c ∈ (a ++ d.type).getLast?, isBlank c = false := by
  obtain ⟨ht, htw⟩ := isAsciiWord_of_isIdentifier hd.1
  intro c hc
  rw [List.getLast?_append, List.getLast?_eq_some_getLast ht, Option.some_or] at hc
  obtain rfl := Option.some.inj hc
  exact isBlank_of_isAsciiWord (htw _ (List.getLast_mem ht))

theorem Dependency.TypeBefore.type_eq (hd' : d'.IsNamed) (h : d.TypeBefore x) (h' : d'.TypeBefore x) :
    d.type = d'.type := by
  obtain ⟨a, g, rfl, ha, -, hg⟩ := h
  obtain ⟨a', g', hx, ha', -, hg'⟩ := h'
  rw [← List.append_assoc, ← List.append_assoc] at hx
  -- the blanks end where the types do, and the types begin where the words do
  obtain ⟨hx, -⟩ := eq_of_append_of_stop_before hg hg' (hd.isBlank_getLast?_type a)
    (hd'.isBlank_getLast?_type a') hx
  exact (eq_of_append_of_stop_before (fun c hc => hd.isWord_of_mem (.inl hc))
    (fun c hc => hd'.isWord_of_mem (.inl hc)) (isWordAt_eq_false_iff.1 ha)
    (isWordAt_eq_false_iff.1 ha') hx).2

/-- At one place stands the variable of one dependency at most. -/
theorem Dependency.VariableAt.unique (hd' : d'.IsNamed) (h : d.VariableAt x s)
    (h' : d'.VariableAt x s) : d.type = d'.type ∧ d.name = d'.name := by
  obtain ⟨hx, r, rfl, hr⟩ := h
  obtain ⟨hx', r', hs, hr'⟩ := h'
  exact ⟨hx.type_eq hd hd' hx', (eq_of_append_of_stop (fun c hc => hd.isWord_of_mem (.inr hc))
    (fun c hc => hd'.isWord_of_mem (.inr hc)) (isWordAt_eq_false_iff.1 hr)
    (isWordAt_eq_false_iff.1 hr') (List.cons.inj hs).2).1⟩

/-! ## What decides it -/

/-- What comes before a mark makes no difference to the type behind it. -/
theorem Dependency.TypeBefore.congr {c : Char} (hc : isWord c = false ∧ isBlank c = false) {v : Text}
    (h : d.TypeBefore (x ++ c :: v)) (x' : Text) : d.TypeBefore (x' ++ c :: v) := by
  obtain ⟨a, g, hx, ha, hg, hgb⟩ := h
  have hmark : c ∉ d.type ++ g := by
    intro hmem
    rcases List.mem_append.1 hmem with hmem | hmem
    · simp [hd.isWord_of_mem (.inl hmem)] at hc
    · simp [hgb c hmem] at hc
  rcases List.append_eq_append_iff.1 hx with ⟨m, rfl, hm⟩ | ⟨m, -, hm⟩
  · cases m with
    | nil => exact absurd (hm ▸ List.mem_cons_self) hmark
    | cons e m =>
      obtain ⟨rfl, rfl⟩ := List.cons.inj hm
      refine ⟨x' ++ c :: m, g, by simp, ?_, hg, hgb⟩
      rw [List.getLast?_append_cons] at ha ⊢
      exact ha
  · exact absurd (by simp [hm]) hmark

/-- What comes after a character of no name makes no difference to the variable before it. -/
theorem Dependency.VariableAt.congr {e : Char} (he : isWord e = false ∧ e ≠ '$') {v : Text}
    (hv : v.getLast? = some e) (h : d.VariableAt x (v ++ s)) (s' : Text) :
    d.VariableAt x (v ++ s') := by
  obtain ⟨hx, r, hs, hr⟩ := h
  refine ⟨hx, ?_⟩
  cases v with
  | nil => cases hv
  | cons c v =>
    obtain ⟨rfl, hname⟩ := List.cons.inj hs
    have hne : v ≠ [] := by
      rintro rfl
      exact he.2 (Option.some.inj hv).symm
    rw [List.getLast?_cons_of_ne_nil hne] at hv
    have hmem : e ∉ d.name := fun hmem => by simp [hd.isWord_of_mem (.inr hmem)] at he
    rcases List.append_eq_append_iff.1 hname with ⟨m, hm, -⟩ | ⟨m, rfl, hm⟩
    · exact absurd (by simp [hm, List.mem_of_getLast? hv]) hmem
    · have hmne : m ≠ [] := by
        rintro rfl
        exact hmem (by simpa using List.mem_of_getLast? hv)
      obtain ⟨c, m, rfl⟩ := List.exists_cons_of_ne_nil hmne
      subst hm
      exact ⟨c :: m ++ s', by simp, hr⟩

end

/-! ## Insertions without the variable -/

/-- A place that no type and variable are written across: no name and no dollar sign ends there, and a
mark comes before the next dollar sign. -/
structure IsGap (a b : Text) : Prop where
  before : ∀ e ∈ a.getLast?, isWord e = false ∧ e ≠ '$'
  after : ∀ v z, b = v ++ '$' :: z → ∃ c ∈ v, isWord c = false ∧ isBlank c = false

/-- A variable that does not stand in an inserted text stands where it does whatever is inserted. -/
theorem Dependency.IsNamed.isAmong_of_insert {d : Dependency} (hd : d.IsNamed) {a w b : Text}
    (hgap : IsGap a b) (hw : ∀ v z, w = v ++ '$' :: z → ¬ d.VariableAt (a ++ v) ('$' :: (z ++ b)))
    (h : d.isAmong (a ++ (w ++ b)) = true) (w' : Text) : d.isAmong (a ++ (w' ++ b)) = true := by
  obtain ⟨x, s, hxs, hvariable⟩ := hd.isAmong_iff_variableAt.1 h
  obtain ⟨r, rfl, -⟩ := hvariable.2
  refine hd.isAmong_iff_variableAt.2 ?_
  rcases append_split_cases hxs with ⟨z, hz, rfl, hs⟩ | ⟨v, z, hz, rfl, rfl, hs⟩ | ⟨v, rfl, rfl⟩
  · have he := List.getLast?_eq_some_getLast hz
    have hlast := hgap.before _ (by rw [List.getLast?_append, he]; rfl)
    rw [hs] at hvariable
    exact ⟨x, z ++ (w' ++ b), by simp, hvariable.congr hd hlast he _⟩
  · obtain ⟨c, z, rfl⟩ := List.exists_cons_of_ne_nil hz
    obtain ⟨rfl, hs⟩ := List.cons.inj hs
    rw [hs] at hvariable
    exact absurd hvariable (hw v z rfl)
  · obtain ⟨c, hc, hmark⟩ := hgap.after v _ rfl
    obtain ⟨v₁, v₂, rfl⟩ := List.append_of_mem hc
    rw [← List.append_assoc w, ← List.append_assoc a] at hvariable
    refine ⟨(a ++ (w' ++ v₁)) ++ c :: v₂, _, ?_, hvariable.1.congr hd hmark _, hvariable.2⟩
    simp only [List.append_assoc, List.cons_append]

theorem Dependency.IsNamed.isAmong_insert_of_absent {d : Dependency} (hd : d.IsNamed) {a w b : Text}
    (hgap : IsGap a b) (hw : ∀ v z, w = v ++ '$' :: z → ¬ d.VariableAt (a ++ v) ('$' :: (z ++ b))) :
    d.isAmong (a ++ (w ++ b)) = d.isAmong (a ++ b) := by
  have hempty : ∀ v z, [] = v ++ '$' :: z → ¬ d.VariableAt (a ++ v) ('$' :: (z ++ b)) := by simp
  rw [Bool.eq_iff_iff]
  exact ⟨fun h => hd.isAmong_of_insert hgap hw h [], fun h => hd.isAmong_of_insert hgap hempty h w⟩

/-! ## The parameter of another dependency -/

theorem Dependency.variableAt_parameter (d : Dependency) (a i : Text) {r : Text}
    (hr : isWordAt r.head? = false) :
    d.VariableAt (a ++ (i ++ (promotion ++ (d.type ++ [' '])))) ('$' :: (d.name ++ r)) := by
  have hpromotion : promotion.getLast? = some ' ' := by decide
  have hspace : ∀ c ∈ [' '], isBlank c = true := List.all_iff_forall_prop.1 (by decide)
  refine ⟨⟨a ++ (i ++ promotion), [' '], by simp, ?_, by simp, hspace⟩, r, rfl, hr⟩
  rw [List.getLast?_append, List.getLast?_append, hpromotion]
  exact (by decide : isWord ' ' = false)

section
variable {d₁ d₂ : Dependency} (h₁ : d₁.IsNamed) (h₂ : d₂.IsNamed)
  (hne : d₁.type ≠ d₂.type ∨ d₁.name ≠ d₂.name)
include h₁ h₂ hne

theorem Dependency.IsNamed.isAmong_insert_parameter {a i j b : Text}
    (hgap : IsGap a b) (hi : ∀ c ∈ i, isBlank c = true) (hj : ∀ c ∈ j, isBlank c = true)
    (hjne : j ≠ []) :
    d₂.isAmong (a ++ (i ++ (d₁.parameter ++ j) ++ b)) = d₂.isAmong (a ++ b) := by
  refine h₂.isAmong_insert_of_absent hgap fun v z hvz hvariable => ?_
  have hdollar : isBlank '$' = false := by decide
  have hname : ∀ u : Text, isIdentifier u = true → '$' ∉ u := fun u hu =>
    notMem_of_isIdentifier hu (by decide)
  have hsplit : v ++ '$' :: z = (i ++ (promotion ++ (d₁.type ++ [' ']))) ++ '$' :: (d₁.name ++ j) := by
    rw [← hvz, parameter_eq]
    simp only [List.append_assoc, List.cons_append, List.nil_append]
  have hbefore : '$' ∉ i ++ (promotion ++ (d₁.type ++ [' '])) := by
    simp [notMem_of_isBlank hi hdollar, hname _ h₁.1, (by decide : '$' ∉ promotion)]
  have hafter : '$' ∉ d₁.name ++ j := by simp [notMem_of_isBlank hj hdollar, hname _ h₁.2]
  -- the dollar sign of the parameter is the only one
  obtain ⟨rfl, -, rfl⟩ := (List.append_cons_inj_of_notMem hbefore hafter).1 hsplit.symm
  have hr : isWordAt (j ++ b).head? = false := by
    obtain ⟨c, j, rfl⟩ := List.exists_cons_of_ne_nil hjne
    exact isWord_of_isBlank (hj c List.mem_cons_self)
  rw [List.append_assoc] at hvariable
  obtain ⟨htype, hname⟩ := (d₁.variableAt_parameter a i hr).unique h₁ h₂ hvariable
  exact hne.elim (· htype) (· hname)

end

/-! ## Injections -/

/-- The first of two different characters comes before the other in a text that begins without it. -/
theorem mem_of_append_cons_eq {c e : Char} (hce : c ≠ e) {x x' y y' : Text} (hx : e ∉ x)
    (h : x ++ c :: y = x' ++ e :: y') : c ∈ x' := by
  rcases List.append_eq_append_iff.1 h with ⟨m, rfl, hm⟩ | ⟨m, rfl, hm⟩
  · cases m with
    | nil => exact absurd (List.cons.inj hm).1 hce
    | cons d m => simp [(List.cons.inj hm).1]
  · cases m with
    | nil => exact absurd (List.cons.inj hm).1.symm hce
    | cons d m => simp [(List.cons.inj hm).1] at hx

theorem OpenConstructor.Fits.maskFrom_after {o : OpenConstructor} (h : o.Fits) :
    ∃ j t, maskFrom .code o.after = j ++ ')' :: t ∧ IsIndent j := by
  obtain ⟨j, g, hclosing, hj, -⟩ := h.closing
  have hinert : IsInert (j ++ [')']) := by
    refine ⟨fun c hc => ?_, fun e he => ?_⟩
    · rcases List.mem_append.1 hc with hc | hc
      · exact inert_of_isBlank (isBlank_of_isIndent (hj c hc))
      · rw [List.mem_singleton.1 hc]
        decide
    · rw [List.getLast?_concat] at he
      obtain rfl := Option.some.inj he
      decide
  refine ⟨j, maskFrom .code (g ++ '{' :: o.rest), ?_, hj⟩
  have hmask := maskFrom_code hinert (g ++ '{' :: o.rest)
  rw [after, hclosing]
  simpa only [List.append_assoc, List.cons_append, List.nil_append] using hmask

theorem OpenConstructor.Fits.isGap {o : OpenConstructor} (h : o.Fits) {a w y z : Text}
    (hq : QuietInsertion a w o.after) (hy : y <:+ maskPart o.after.head? .code a)
    (hz : z <+: maskFrom .code o.after) : IsGap y z where
  before e he := by
    have hedge := hq.isEdge_of_suffix hy e he
    exact ⟨isWord_of_isEdge hedge, by rintro rfl; cases hedge⟩
  after v z' hv := by
    -- the rest of the parameters begins with the parenthesis that closes them
    obtain ⟨j, t, hafter, hj⟩ := h.maskFrom_after
    obtain ⟨rest, hrest⟩ := hz
    rw [hafter, hv, List.append_assoc, List.cons_append] at hrest
    have hclose : ')' ∈ v :=
      mem_of_append_cons_eq (by decide) (fun hmem => absurd (hj _ hmem) (by decide)) hrest.symm
    exact ⟨')', hclose, by decide, by decide⟩

section
variable {d₁ d₂ : Dependency} (h₁ : d₁.IsNamed) (h₂ : d₂.IsNamed)
  (hne : d₁.type ≠ d₂.type ∨ d₁.name ≠ d₂.name) {mode : Mode} {s t u : Text}
include h₁ h₂ hne

theorem Dependency.IsNamed.isTaken_append {o : OpenConstructor} (ho : firstOpen? s = some (u, o)) :
    d₂.isTaken (u ++ o.append d₁.parameter) = d₂.isTaken s := by
  obtain ⟨hs, happend, hq⟩ := append_eq h₁ ho
  have hf := (openConstructor?_parts (firstOpen?_eq_some ho).2.1).2.1
  rw [hs, happend]
  by_cases hc : regionAt (u ++ o.before) o.after = .code
  · have hlist := hq.parameterList?_eq
    rw [hq.mask_eq.1, hq.mask_eq.2] at hlist
    rw [d₂.isTaken_eq_any, d₂.isTaken_eq_any, hq.mask_eq.1, hq.mask_eq.2]
    refine any_isAmong_insert_of_eq hlist fun y z hy hz => ?_
    rw [hc] at hz
    rw [hc, Region.shown, if_pos rfl, line]
    refine h₁.isAmong_insert_parameter h₂ hne (hf.isGap hq hy hz) ?_ ?_ ?_
    · exact fun c hc => isBlank_of_isIndent (o.isIndent_indent c hc)
    · exact isBlank_of_mem_lineStart hf.lineBreak o.isIndent_closingIndent
    · rcases hf.lineBreak with hb | hb <;> simp [hb]
  · exact hq.isTaken_eq h₂ fun h => absurd h hc

theorem Dependency.IsNamed.isAmong_newList {lineBreak : Text} (hb : IsLineBreak lineBreak) :
    d₂.isAmong (d₁.newList lineBreak) = false := by
  have hspaces : ∀ n, ∀ c ∈ lineBreak ++ List.replicate n ' ', isBlank c = true := fun n =>
    isBlank_of_mem_lineStart hb (isIndent_replicate n)
  have hempty : d₂.isAmong [] = false := by
    rw [← Bool.not_eq_true, h₂.isAmong_iff_variable]
    simp
  have hgap : IsGap [] [] := ⟨nofun, by simp⟩
  have hinsert := h₁.isAmong_insert_parameter h₂ hne hgap (hspaces 8) (hspaces 4) (by simp)
  rw [List.append_nil, List.append_nil, hempty] at hinsert
  rw [newList, ← hinsert]
  simp only [List.append_assoc, List.nil_append]

theorem Dependency.IsNamed.isTaken_addConstructor {h : ClassHeader} (hh : firstHeader? s = some (u, h))
    (hc : declaresConstructor s = false) :
    d₂.isTaken (u ++ h.header ++ (d₁.newConstructor h.lineBreak ++ h.rest)) = d₂.isTaken s := by
  obtain ⟨-, hb, -⟩ := getLast?_header hh
  have hnone : parameterList? (mask s) = none := by
    simpa [declaresConstructor, parameterSpan?] using hc
  rw [isTaken_eq_any, isTaken_eq_any, hnone, h₁.parameterList?_addConstructor hh hc]
  split
  · exact h₁.isAmong_newList h₂ hne hb
  · rfl

/-- An injection leaves the recognition of every other dependency alone. -/
theorem Dependency.IsNamed.isTaken_eq_of_injected (himport : d₁.imported = none)
    (h : d₁.inject mode s = .injected t) : d₂.isTaken t = d₂.isTaken s := by
  obtain ⟨-, r, hr, rfl⟩ := inject_eq_injected_iff.1 h
  rw [(importsQuietly_of_none himport r).isTaken_eq h₂]
  rcases rewrite_cases hr with ⟨-, u, o, ho, rfl⟩ | ⟨hextends, u, o, ho, rfl⟩
  · exact h₁.isTaken_append h₂ hne ho
  · refine h₁.isTaken_addConstructor h₂ hne ho ?_
    rw [← Bool.not_eq_true]
    exact fun hdeclares => hextends (.inr hdeclares)

end

def badgeDependency : Dependency where
  type := "BadgeRepository".toList
  name := "badges".toList

theorem Dependency.isTaken_eq_of_injected_openController :
    ∃ t, ({} : Dependency).inject .extend openController = .injected t ∧
      badgeDependency.isTaken t = badgeDependency.isTaken openController ∧
      badgeDependency.isTaken openController = true := by
  obtain ⟨t, h, -⟩ := Dependency.injects_openController
  exact ⟨t, h, Dependency.IsNamed.isTaken_eq_of_injected (by decide) (by decide) (by decide) rfl h,
    by decide +kernel⟩

end Wiring
