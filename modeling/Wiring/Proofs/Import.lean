import Wiring.Proofs.NewConstructor

/-!
# The place of an import

An import goes on a line of its own before a statement, or after the semicolon of one:
`placeImport_eq_some`. The import of a plain name is a quiet insertion, unless it cuts a line comment
in two.
-/

namespace Wiring

/-! ## The statements of a source -/

def IsStatement (keyword text : Text) : Prop :=
  ∃ c m, isBlank c = true ∧ text = keyword ++ c :: (m ++ [';'])

theorem isStatement_of_statementAt? {keyword s text rest : Text}
    (h : statementAt? keyword s = some (text, rest)) : IsStatement keyword text := by
  simp only [statementAt?, Option.bind_eq_bind, Option.bind_eq_some_iff,
    Option.ite_none_right_eq_some, Option.some.injEq, Prod.mk.injEq] at h
  obtain ⟨s, -, r, -, hn, rfl, -⟩ := h
  simp only [isNamed, Bool.and_eq_true, decide_eq_true_eq] at hn
  obtain ⟨c, m, hm⟩ := List.exists_cons_of_ne_nil hn.1
  have hc : isBlank c = true := List.mem_takeWhile_imp (hm ▸ List.mem_cons_self)
  exact ⟨c, m ++ (s.dropWhile isBlank).takeWhile (!endsName ·), hc, by simp [hm]⟩

theorem statementAt?_of_nextStatement? {keyword : Text} {atStart : Bool} {s : Text} {g : Statement}
    {rest : Text} (h : nextStatement? keyword atStart s = some (g, rest)) :
    statementAt? keyword (g.text ++ rest) = some (g.text, rest) := by
  induction s generalizing atStart g with
  | nil => cases h
  | cons c s ih =>
    rw [nextStatement?] at h
    split at h
    · rename_i text r hs
      cases h
      have hs := (Option.ite_none_right_eq_some.1 hs).2
      rwa [← statementAt?_append hs] at hs
    · obtain ⟨⟨g', r⟩, hg, h⟩ := Option.map_eq_some_iff.1 h
      cases h
      have hread : statementAt? keyword (g'.text ++ rest) = some (g'.text, rest) := ih hg
      exact hread

theorem nextStatement?_fits {keyword : Text} {atStart : Bool} {s : Text} {g : Statement} {rest : Text}
    (h : nextStatement? keyword atStart s = some (g, rest)) :
    IsStatement keyword g.text ∧ (g.before = [] ∧ atStart = true ∨ g.before.getLast? = some '\n') := by
  refine ⟨isStatement_of_statementAt? (statementAt?_of_nextStatement? h), ?_⟩
  induction s generalizing atStart g with
  | nil => cases h
  | cons c s ih =>
    rw [nextStatement?] at h
    split at h
    · rename_i text r hs
      cases h
      exact .inl ⟨rfl, (Option.ite_none_right_eq_some.1 hs).1⟩
    · obtain ⟨⟨g', r⟩, hg, h⟩ := Option.map_eq_some_iff.1 h
      cases h
      right
      rcases ih hg with ⟨hb, hc⟩ | hb
      · simp only [hb, List.getLast?_singleton, beq_iff_eq.1 hc]
      · simp [List.getLast?_cons, hb]

theorem statementsFrom_fits (keyword : Text) (atStart : Bool) (s : Text) :
    (∀ g ∈ (statementsFrom keyword atStart s).1, IsStatement keyword g.text ∧
      (g.before = [] ∧ atStart = true ∨ g.before.getLast? = some '\n')) ∧
    ∀ g ∈ (statementsFrom keyword atStart s).1.tail, g.before.getLast? = some '\n' := by
  fun_induction statementsFrom keyword atStart s with
  | case1 => simp
  | case2 atStart s g rest hg hlt gs last hgs ih =>
    rw [hgs] at ih
    have htail : ∀ g ∈ gs, g.before.getLast? = some '\n' := fun g hg => by
      simpa using (ih.1 g hg).2
    refine ⟨fun g' hg' => ?_, htail⟩
    rcases List.mem_cons.1 hg' with rfl | hg'
    · exact nextStatement?_fits hg
    · exact ⟨(ih.1 g' hg').1, .inr (htail g' hg')⟩
  | case3 atStart s g rest hg =>
    simpa using nextStatement?_fits hg

theorem joinStatements_append (gs gs' : List Statement) (last : Text) :
    joinStatements (gs ++ gs') last = joinStatements gs (joinStatements gs' last) := by
  simp [joinStatements]

theorem joinStatements_cons (g : Statement) (gs : List Statement) (last : Text) :
    joinStatements (g :: gs) last = g.before ++ (g.text ++ joinStatements gs last) := by
  simp [joinStatements]

/-! ## The place -/

def placeAmong (text : Text) (gs : List Statement) (last : Text) : Text × Text :=
  match gs.dropWhile (fun g => !(text < g.text)) with
  | [] => (joinStatements gs [], last)
  | g :: gs' =>
    (joinStatements (gs.takeWhile fun g => !(text < g.text)) g.before,
      g.text ++ joinStatements gs' last)

def importPlace? (text source : Text) : Option (Text × Text) :=
  match useStatements source with
  | ([], _) =>
    (nextStatement? "namespace".toList true source).map fun (g, rest) => (g.before ++ g.text, rest)
  | (gs, last) => some (placeAmong text gs last)

/-- The insertion of a use statement: on a line before another, or on lines after a semicolon. -/
inductive ImportLine (text lineBreak : Text) : (a w b : Text) → Prop
  | before {a b : Text} (ha : a = [] ∨ a.getLast? = some '\n') (hb : ∃ t r, IsStatement "use".toList t ∧
      b = t ++ r) : ImportLine text lineBreak a (text ++ lineBreak) b
  | after {a b : Text} (ha : a.getLast? = some ';') {breaks : Text} (hb : breaks = lineBreak ∨
      breaks = lineBreak ++ lineBreak) : ImportLine text lineBreak a (breaks ++ text) b

theorem placeStatement_eq (lineBreak text : Text) (gs : List Statement) :
    placeStatement lineBreak text gs = gs.takeWhile (fun g => !(text < g.text)) ++
      match gs.dropWhile (fun g => !(text < g.text)) with
      | [] => [⟨lineBreak, text⟩]
      | g :: gs' => ⟨g.before, text⟩ :: ⟨lineBreak, g.text⟩ :: gs' := by
  induction gs with
  | nil => rfl
  | cons g gs ih =>
    rw [placeStatement]
    by_cases h : text < g.text
    · simp [h]
    · simp [h, ih]

theorem sourceLineBreak_isLineBreak (s : Text) : IsLineBreak (sourceLineBreak s) := by
  unfold sourceLineBreak
  split
  · exact .inr rfl
  · exact .inl rfl

theorem IsStatement.getLast? {keyword text : Text} (h : IsStatement keyword text) :
    text.getLast? = some ';' := by
  obtain ⟨c, m, -, rfl⟩ := h
  rw [← List.cons_append, ← List.append_assoc]
  exact List.getLast?_concat

theorem joinStatements_getLast? {gs : List Statement} (hne : gs ≠ [])
    (h : ∀ g ∈ gs, IsStatement "use".toList g.text) : (joinStatements gs []).getLast? = some ';' := by
  obtain ⟨gs, g, rfl⟩ := (List.eq_nil_or_concat gs).resolve_left hne
  rw [List.concat_eq_append, joinStatements_append, joinStatements_cons]
  simp [joinStatements, List.getLast?_append, (h g (by simp)).getLast?]

theorem placeAmong_spec (lineBreak text : Text) {gs : List Statement} (last : Text) (hne : gs ≠ [])
    (hfits : ∀ g ∈ gs, IsStatement "use".toList g.text ∧
      (g.before = [] ∨ g.before.getLast? = some '\n'))
    (htail : ∀ g ∈ gs.tail, g.before.getLast? = some '\n') :
    ∃ a w b, placeAmong text gs last = (a, b) ∧ joinStatements gs last = a ++ b ∧
      joinStatements (placeStatement lineBreak text gs) last = a ++ (w ++ b) ∧
      ImportLine text lineBreak a w b := by
  have hsplit := List.takeWhile_append_dropWhile (p := fun g : Statement => !(text < g.text)) (l := gs)
  rw [placeAmong, placeStatement_eq]
  generalize gs.takeWhile (fun g => !(text < g.text)) = keep at *
  cases hrest : gs.dropWhile (fun g => !(text < g.text)) with
  | nil =>
    rw [hrest, List.append_nil] at hsplit
    subst hsplit
    refine ⟨_, lineBreak ++ text, _, rfl, ?_, ?_, .after ?_ (.inl rfl)⟩
    · simp [joinStatements]
    · simp [joinStatements]
    · exact joinStatements_getLast? hne fun g hg => (hfits g hg).1
  | cons g gs' =>
    rw [hrest] at hsplit
    subst hsplit
    refine ⟨_, text ++ lineBreak, _, rfl, ?_, ?_, .before ?_ ⟨g.text, _, (hfits g (by simp)).1, rfl⟩⟩
    · simp [joinStatements]
    · simp [joinStatements]
    · cases keep with
      | nil => exact (hfits g (by simp)).2.imp_left fun h => by simpa [joinStatements] using h
      | cons g₁ keep =>
        have := htail g (by simp)
        exact .inr (by simp [joinStatements, List.getLast?_append, this])

theorem placeImport_eq_some {text s t : Text} (h : placeImport text s = some t) :
    ∃ a w b, importPlace? text s = some (a, b) ∧ s = a ++ b ∧ t = a ++ (w ++ b) ∧
      ImportLine text (sourceLineBreak s) a w b := by
  have hjoin := joinStatements_statements "use".toList s
  obtain ⟨hfits, htail⟩ := statementsFrom_fits "use".toList true s
  rw [← statements] at hfits htail
  simp only [placeImport, useStatements] at h
  simp only [importPlace?, useStatements]
  generalize statements "use".toList s = found at *
  obtain ⟨gs, last⟩ := found
  cases gs with
  | nil =>
    obtain ⟨⟨g, rest⟩, hg, rfl⟩ := Option.map_eq_some_iff.1 h
    obtain ⟨ht, -⟩ := nextStatement?_fits hg
    refine ⟨g.before ++ g.text, sourceLineBreak s ++ sourceLineBreak s ++ text, rest, ?_,
      (nextStatement?_append hg).symm, by simp, .after ?_ (.inr rfl)⟩
    · rw [hg]; rfl
    · rw [List.getLast?_append, ht.getLast?]; rfl
  | cons g gs =>
    obtain rfl := Option.some.inj h
    obtain ⟨a, w, b, hab, hs, ht, hline⟩ := placeAmong_spec (sourceLineBreak s) text last
      (List.cons_ne_nil g gs) (fun g hg => ⟨(hfits g hg).1, (hfits g hg).2.imp_left And.left⟩) htail
    exact ⟨a, w, b, congrArg some hab, hjoin.symm.trans hs, ht, hline⟩

/-! ## Quiet imports -/

/-- Whether a character takes no part in what the lookups in a source go by. -/
def isPlain (c : Char) : Bool :=
  !(['/', '#', '\'', '"', '(', ')', '\x7b', '\x7d', '$'].contains c)

/-- Whether the import of a dependency has plain characters only and cuts no line comment in two. -/
def Dependency.ImportsQuietly (d : Dependency) (s : Text) : Prop :=
  ∀ name, d.imported = some name → (∀ c ∈ name, isPlain c = true) ∧
    ∀ a b, importPlace? (useStatement name) s = some (a, b) → regionAt a b ≠ .lineComment

theorem Dependency.importsQuietly_of_none {d : Dependency} (h : d.imported = none) (s : Text) :
    d.ImportsQuietly s := fun name hname => by
  rw [h] at hname
  cases hname

theorem isPlain_ne {c e : Char} (hc : isPlain c = true) (he : isPlain e = false) : c ≠ e := by
  rintro rfl
  simp [hc] at he

theorem useStatement_eq (name : Text) :
    useStatement name = "use".toList ++ ' ' :: (name.dropWhile (· == '\\') ++ [';']) := rfl

theorem isPlain_of_mem_useStatement {name : Text} (hname : ∀ c ∈ name, isPlain c = true) :
    ∀ c ∈ useStatement name, isPlain c = true := by
  intro c hc
  simp only [useStatement_eq, List.mem_append, List.mem_cons, List.not_mem_nil, or_false] at hc
  rcases hc with hc | rfl | hc | rfl
  · exact (List.all_iff_forall_prop.1 (by decide) : ∀ c ∈ "use".toList, isPlain c = true) c hc
  · decide
  · exact hname c ((List.dropWhile_suffix _).subset hc)
  · decide

theorem useStatement_getLast? (name : Text) : (useStatement name).getLast? = some ';' := by
  rw [useStatement]
  exact List.getLast?_concat

theorem IsLineBreak.isPlain {b : Text} (h : IsLineBreak b) : ∀ c ∈ b, isPlain c = true := by
  rcases h with rfl | rfl <;> exact List.all_iff_forall_prop.1 (by decide)

theorem IsStatement.breaks {t : Text} (h : IsStatement "use".toList t) (r : Text) :
    Breaks (t ++ r) := by
  obtain ⟨c, m, hc, rfl⟩ := h
  rw [List.append_assoc, List.cons_append]
  exact .word (s := []) (k := "use".toList) (by simp) (by simp) hc

section
variable {name lineBreak a w b : Text}

theorem ImportLine.isPlain_of_mem (h : ImportLine (useStatement name) lineBreak a w b)
    (hb : IsLineBreak lineBreak) (hname : ∀ c ∈ name, isPlain c = true) :
    ∀ c ∈ w, isPlain c = true := by
  intro c hc
  cases h with
  | before ha hb' =>
    rcases List.mem_append.1 hc with hc | hc
    · exact isPlain_of_mem_useStatement hname c hc
    · exact hb.isPlain c hc
  | after ha hb' =>
    rcases List.mem_append.1 hc with hc | hc
    · rcases hb' with rfl | rfl
      · exact hb.isPlain c hc
      · exact hb.isPlain c (by simpa using hc)
    · exact isPlain_of_mem_useStatement hname c hc

theorem ImportLine.getLast?_before {text : Text} (h : ImportLine text lineBreak a w b) :
    ∀ e ∈ a.getLast?, e = '\n' ∨ e = ';' := by
  intro e he
  cases h with
  | before ha hb' =>
    rcases ha with rfl | ha
    · cases he
    · exact .inl (Option.some.inj (he.symm.trans ha))
  | after ha hb' => exact .inr (Option.some.inj (he.symm.trans ha))

theorem ImportLine.isEdge_getLast? (h : ImportLine (useStatement name) lineBreak a w b)
    (hb : IsLineBreak lineBreak) : ∀ e ∈ w.getLast?, isEdge e = true := by
  intro e he
  cases h with
  | before ha hb' =>
    rw [List.getLast?_append, hb.getLast?] at he
    obtain rfl := Option.some.inj he
    rfl
  | after ha hb' =>
    rw [List.getLast?_append, useStatement_getLast?] at he
    obtain rfl := Option.some.inj he
    rfl

theorem ImportLine.isWalled (h : ImportLine (useStatement name) lineBreak a w b) :
    IsWalled a w b := by
  cases h with
  | before ha hb' =>
    obtain ⟨t, r, ⟨c, m, -, rfl⟩, rfl⟩ := hb'
    exact .inr ⟨rfl, rfl⟩
  | after ha hb' =>
    refine .inl ⟨fun e he => Option.some.inj (he.symm.trans ha), ?_⟩
    rw [List.getLast?_append, useStatement_getLast?]
    rfl

theorem ImportLine.quiet (h : ImportLine (useStatement name) lineBreak a w b)
    (hb : IsLineBreak lineBreak) (hname : ∀ c ∈ name, isPlain c = true)
    (hr : regionAt a b ≠ .lineComment) : QuietInsertion a w b ∧ IsWalled a w b ∧ '$' ∉ w := by
  have hplain := h.isPlain_of_mem hb hname
  have hlast := h.isEdge_getLast? hb
  have hnot : ∀ e, isPlain e = false → e ∉ w :=
    fun e he hmem => isPlain_ne (hplain e hmem) he rfl
  have hahead : ∀ e ∈ a.getLast?, looksAhead e = false := fun e he => by
    rcases h.getLast?_before e he with rfl | rfl <;> decide
  refine ⟨⟨h.getLast?_before, hlast, ⟨fun c hc => ?_, fun e he => looksAhead_of_isEdge (hlast e he)⟩,
    ⟨hnot _ (by decide), hnot _ (by decide), hnot _ (by decide), hnot _ (by decide)⟩,
    (regionAt_cases hahead b).resolve_right fun h => hr h.1, ?_, ?_⟩, h.isWalled, hnot _ (by decide)⟩
  · have hc := hplain c hc
    exact ⟨isPlain_ne hc (by decide), isPlain_ne hc (by decide), isPlain_ne hc (by decide),
      isPlain_ne hc (by decide)⟩
  · intro e he hbe
    cases h with
    | before ha hb' =>
      obtain ⟨t, r, ht, rfl⟩ := hb'
      refine ⟨?_, ht.breaks r⟩
      have := IsStatement.breaks ⟨' ', _, by decide, useStatement_eq name⟩ (lineBreak ++ (t ++ r))
      rwa [List.append_assoc]
    | after ha hb' =>
      obtain rfl := Option.some.inj (he.symm.trans ha)
      exact absurd hbe (by decide)
  · intro e he hbe
    cases h with
    | before ha hb' =>
      obtain ⟨t, r, ht, rfl⟩ := hb'
      exact ht.breaks r
    | after ha hb' =>
      rw [List.getLast?_append, useStatement_getLast?] at he
      obtain rfl := Option.some.inj he
      exact absurd hbe (by decide)

end

theorem Dependency.addUse_eq_some {d : Dependency} {s t : Text} (h : d.addUse s = some t) :
    ∃ name a w b, d.imported = some name ∧ importPlace? (useStatement name) s = some (a, b) ∧
      s = a ++ b ∧ t = a ++ (w ++ b) ∧ ImportLine (useStatement name) (sourceLineBreak s) a w b := by
  unfold addUse at h
  split at h
  · rename_i name hname
    split at h
    · cases h
    · obtain ⟨a, w, b, hplace⟩ := placeImport_eq_some h
      exact ⟨name, a, w, b, hname, hplace⟩
  · cases h

section
variable {d : Dependency} {s : Text}

/-- A quiet import is an insertion that no lookup notices, or none at all. -/
theorem Dependency.ImportsQuietly.cases (h : d.ImportsQuietly s) :
    (d.addUse s).getD s = s ∨ ∃ a w b, s = a ++ b ∧ (d.addUse s).getD s = a ++ (w ++ b) ∧
      QuietInsertion a w b ∧ IsWalled a w b ∧ '$' ∉ w := by
  cases ht : d.addUse s with
  | none => exact .inl rfl
  | some t =>
    right
    obtain ⟨name, a, w, b, hname, hplace, rfl, rfl, hline⟩ := addUse_eq_some ht
    obtain ⟨hplain, hregion⟩ := h name hname
    exact ⟨a, w, b, rfl, rfl,
      hline.quiet (sourceLineBreak_isLineBreak _) hplain (hregion a b hplace)⟩

theorem Dependency.ImportsQuietly.isTaken_eq (h : d.ImportsQuietly s) {d' : Dependency}
    (hd : d'.IsNamed) : d'.isTaken ((d.addUse s).getD s) = d'.isTaken s := by
  rcases h.cases with ht | ⟨a, w, b, hs, ht, hq, -, hw⟩
  · rw [ht]
  · rw [ht, hq.isTaken_eq hd fun _ => hw, ← hs]

theorem Dependency.ImportsQuietly.declaresConstructor_eq (h : d.ImportsQuietly s) :
    declaresConstructor ((d.addUse s).getD s) = declaresConstructor s := by
  rcases h.cases with ht | ⟨a, w, b, hs, ht, hq, -⟩
  · rw [ht]
  · rw [ht, hq.declaresConstructor_eq, ← hs]

theorem Dependency.ImportsQuietly.firstOpen?_eq_none_iff (h : d.ImportsQuietly s) :
    firstOpen? ((d.addUse s).getD s) = none ↔ firstOpen? s = none := by
  rcases h.cases with ht | ⟨a, w, b, hs, ht, hq, hwall, -⟩
  · rw [ht]
  · rw [ht, hq.firstOpen?_eq_none_iff hwall, ← hs]

theorem Dependency.ImportsQuietly.firstHeader?_eq_none_iff (h : d.ImportsQuietly s) :
    firstHeader? ((d.addUse s).getD s) = none ↔ firstHeader? s = none := by
  rcases h.cases with ht | ⟨a, w, b, hs, ht, hq, -⟩
  · rw [ht]
  · rw [ht, hq.firstHeader?_eq_none_iff, ← hs]

end

end Wiring
