import Wiring.Proofs.ImportOrder
import Wiring.Proofs.Utf8

/-!
# The import warning

The warning goes by a second search for the use statement, in the text that it was put into. It stands
where there is no place for the statement, and where the search misses the statement that was put there:
one that is none by the grammar, or one that a line before it makes the name of a longer one. Main
statement: `Dependency.warns_of_injected`.
-/

namespace Wiring

/-! ## A statement behind a keyword on its own -/

/-- Whether the last line that starts in a text has a keyword and then only white space. -/
def EndsInKeyword (keyword : Text) (atStart : Bool) (a : Text) : Prop :=
  ∃ x blanks, a = x ++ (keyword ++ blanks) ∧ startsLine atStart x = true ∧ blanks ≠ [] ∧
    ∀ c ∈ blanks, isBlank c = true

section
variable {keyword : Text} (hkey : IsKeyword keyword)
include hkey

theorem IsKeyword.isBlank_head {text : Text} (h : IsMatch keyword text) :
    ∀ c ∈ text.head?, isBlank c = false := by
  obtain ⟨blanks, name, rfl, -⟩ := h
  obtain ⟨d, k, hk⟩ := List.exists_cons_of_ne_nil hkey.ne_nil
  intro c hc
  rw [hk] at hc
  exact hkey.isBlank_eq c (by rw [hk, ← Option.some.inj hc]; exact List.mem_cons_self)

theorem IsKeyword.isMatch_longer_iff {blanks text : Text} (hblanks : ∀ c ∈ blanks, isBlank c = true)
    (hne : blanks ≠ []) (htext : IsMatch keyword text) :
    IsMatch keyword (keyword ++ blanks ++ text) ↔ '\r' ∉ text ∧ '\n' ∉ text := by
  refine ⟨fun h => ?_, hkey.isMatch_longer hblanks hne htext⟩
  obtain ⟨blanks', name, heq, hblanks', hhead, hname, -⟩ := h
  rw [List.append_assoc, List.append_cancel_left_eq] at heq
  have hnamed := (takeWhile_append_stop hblanks (hkey.isBlank_head htext)).2
  rw [heq, (takeWhile_append_stop hblanks' (isBlank_head_name hhead [])).2] at hnamed
  have hfeed : ∀ c ∈ text, c ≠ '\r' ∧ c ≠ '\n' := by
    intro c hc
    rw [← hnamed, List.mem_append] at hc
    rcases hc with hc | hc
    · exact (endsName_eq_false_iff.1 (hname c hc)).2
    · rw [List.mem_singleton.1 hc]
      decide
  exact ⟨fun hmem => (hfeed _ hmem).1 rfl, fun hmem => (hfeed _ hmem).2 rfl⟩

theorem IsKeyword.eq_of_append_of_match {q z text r rest : Text} (hq : q.getLast? = some '\n')
    (h : IsMatch keyword (q ++ z)) (htext : IsMatch keyword text) (heq : z ++ rest = text ++ r) :
    z = text := by
  -- a statement ends at the first semicolon
  obtain ⟨x, hx, hnot⟩ := hkey.eq_concat h
  obtain ⟨y, rfl, hy⟩ := hkey.eq_concat htext
  rw [← List.append_assoc] at hx heq ⊢
  rcases List.eq_nil_or_concat z with rfl | ⟨z, e, rfl⟩
  · rw [List.append_nil] at hx
    rw [hx, List.getLast?_concat] at hq
    cases hq
  · rw [List.concat_eq_append, ← List.append_assoc] at hx
    obtain ⟨hz, he⟩ := List.append_inj' hx rfl
    rw [← hz, List.mem_append, not_or] at hnot
    rw [List.concat_eq_append, he] at heq ⊢
    have hsemicolon : ∀ u : Text, [';'] ++ u ≠ [] → [';'] <+: [';'] ++ u := fun u _ => List.prefix_append _ u
    rw [List.append_assoc, List.append_assoc (keyword ++ y)] at heq
    rw [(eq_of_append_of_head hnot.2 hy (hsemicolon _) (hsemicolon _) heq).1]

theorem IsKeyword.exists_blanks_of_statementAt? {q t₁ r₁ t₂ r₂ : Text} (hq : q.getLast? = some '\n')
    (ht₂ : IsMatch keyword t₂) (hnone : statementAt? keyword (q ++ (t₁ ++ r₁)) = none)
    (h : statementAt? keyword (q ++ (t₂ ++ r₂)) ≠ none) :
    ∃ blanks, q = keyword ++ blanks ∧ blanks ≠ [] ∧ (∀ c ∈ blanks, isBlank c = true) ∧
      '\r' ∉ t₂ ∧ '\n' ∉ t₂ := by
  obtain ⟨⟨m, rest⟩, hm⟩ := Option.ne_none_iff_exists'.1 h
  obtain ⟨hmatch, heq⟩ := statementAt?_eq_some_iff.1 hm
  rcases List.append_eq_append_iff.1 heq with ⟨z, rfl, hz⟩ | ⟨z, rfl, -⟩
  · obtain ⟨blanks, rfl, hblanks, hne⟩ := hkey.exists_blanks_of_match hq hmatch
    obtain rfl : z = t₂ := hkey.eq_of_append_of_match hq hmatch ht₂ hz.symm
    exact ⟨blanks, rfl, hne, hblanks, (hkey.isMatch_longer_iff hblanks hne ht₂).1 hmatch⟩
  · rw [List.append_assoc, statementAt?_eq_some_iff.2 ⟨hmatch, rfl⟩] at hnone
    cases hnone

/-- Lines before a keyword are no white space behind one. -/
theorem IsKeyword.append_ne {z blanks blanks' : Text} (hz : z.getLast? = some '\n')
    (hblanks' : ∀ c ∈ blanks', isBlank c = true) : z ++ (keyword ++ blanks) ≠ keyword ++ blanks' := by
  intro heq
  rcases List.append_eq_append_iff.1 heq with ⟨w, hw, -⟩ | ⟨w, -, rfl⟩
  · refine hkey.notMem (e := '\n') (by decide) ?_
    rw [hw]
    exact List.mem_append_left w (List.mem_of_getLast? hz)
  · obtain ⟨d, k, hk⟩ := List.exists_cons_of_ne_nil hkey.ne_nil
    have hd := hkey.isBlank_eq d (by simp [hk])
    rw [hblanks' d (by simp [hk])] at hd
    cases hd

/-- Behind a line that a keyword stands on alone, a statement is read as the name of a longer one, and
everywhere else as itself. -/
theorem IsKeyword.nextStatement?_behind {b : Bool} {x t₁ r₁ t₂ : Text}
    (h : nextStatement? keyword b (x ++ (t₁ ++ r₁)) = some (⟨x, t₁⟩, r₁)) (ht₂ : IsMatch keyword t₂)
    (r₂ : Text) :
    nextStatement? keyword b (x ++ (t₂ ++ r₂)) = some (⟨x, t₂⟩, r₂) ∧
        ¬ (EndsInKeyword keyword b x ∧ '\r' ∉ t₂ ∧ '\n' ∉ t₂) ∨
      ∃ u y, x = u ++ y ∧ y ≠ [] ∧ nextStatement? keyword b (x ++ (t₂ ++ r₂)) = some (⟨u, y ++ t₂⟩, r₂) ∧
        EndsInKeyword keyword b x ∧ '\r' ∉ t₂ ∧ '\n' ∉ t₂ := by
  obtain ⟨-, -, hx, hfirst⟩ := nextStatement?_eq_some_iff.1 h
  have hread : ∀ u y, x = u ++ y → y ≠ [] → startsLine b u = true →
      statementAt? keyword (y ++ (t₂ ++ r₂)) ≠ none → ∃ blanks, y = keyword ++ blanks ∧ blanks ≠ [] ∧
        (∀ c ∈ blanks, isBlank c = true) ∧ '\r' ∉ t₂ ∧ '\n' ∉ t₂ := fun u y hu hy hline =>
    hkey.exists_blanks_of_statementAt? (getLast?_of_startsLine hx hu hy) ht₂ (hfirst u y hu hy hline)
  by_cases hall : ∀ u y, x = u ++ y → y ≠ [] → startsLine b u = true →
      statementAt? keyword (y ++ (t₂ ++ r₂)) = none
  · refine .inl ⟨nextStatement?_eq_some_iff.2 ⟨rfl, ht₂, hx, hall⟩, ?_⟩
    intro h'
    obtain ⟨⟨u, blanks, hu, hline, hne, hblanks⟩, hfeed⟩ := h'
    have hnone := hall u (keyword ++ blanks) hu (by simp [hne]) hline
    rw [← List.append_assoc, statementAt?_eq_some_iff.2
      ⟨(hkey.isMatch_longer_iff hblanks hne ht₂).2 hfeed, rfl⟩] at hnone
    cases hnone
  · push Not at hall
    obtain ⟨u, y, rfl, hy, hline, hsome⟩ := hall
    obtain ⟨blanks, rfl, hne, hblanks, hfeed⟩ := hread u y rfl hy hline hsome
    refine .inr ⟨u, _, rfl, hy, nextStatement?_eq_some_iff.2 ⟨?_, ?_, hline, ?_⟩,
      ⟨u, blanks, rfl, hline, hne, hblanks⟩, hfeed⟩
    · simp
    · exact (hkey.isMatch_longer_iff hblanks hne ht₂).2 hfeed
    · -- of the places before it, none has just white space behind its keyword
      intro v z hu hz hv
      subst hu
      by_contra hread'
      obtain ⟨blanks', heq, -, hblanks', -⟩ := hread v (z ++ (keyword ++ blanks)) (List.append_assoc _ _ _)
        (by simp [hz]) hv (by simpa only [List.append_assoc] using hread')
      exact hkey.append_ne (getLast?_of_startsLine hline rfl hz) hblanks' heq

end

theorem EndsInKeyword.getLast?_ne {keyword a : Text} {b : Bool} (h : EndsInKeyword keyword b a) :
    a.getLast? ≠ some ';' := by
  obtain ⟨x, blanks, rfl, -, hne, hblanks⟩ := h
  obtain ⟨m, e, rfl⟩ := (List.eq_nil_or_concat blanks).resolve_left hne
  have he := hblanks e (by simp)
  rw [List.concat_eq_append, ← List.append_assoc, ← List.append_assoc, List.getLast?_concat]
  intro h'
  obtain ⟨⟩ := h'
  exact absurd he (by decide)

theorem IsKeyword.endsInKeyword_append_iff {keyword u a : Text} (hkey : IsKeyword keyword)
    (hu : u.getLast? = some ';') (b : Bool) :
    EndsInKeyword keyword b (u ++ a) ↔ EndsInKeyword keyword false a := by
  -- behind a semicolon no line starts
  have hline : ∀ x, startsLine b (u ++ x) = startsLine false x := fun x => by
    rcases List.eq_nil_or_concat x with rfl | ⟨x, e, rfl⟩
    · simp [startsLine, hu]
    · simp [startsLine, List.getLast?_append]
  constructor
  · intro h'
    obtain ⟨x, blanks, heq, hx, hne, hblanks⟩ := h'
    rcases List.append_eq_append_iff.1 heq with ⟨z, rfl, rfl⟩ | ⟨z, rfl, hz⟩
    · exact ⟨z, blanks, rfl, (hline z).symm.trans hx, hne, hblanks⟩
    · exfalso
      rcases List.eq_nil_or_concat z with rfl | ⟨z, e, rfl⟩
      · rw [List.append_nil] at hu
        simp [startsLine, hu] at hx
      · rw [List.concat_eq_append, ← List.append_assoc, List.getLast?_concat] at hu
        have hmem : ';' ∈ keyword ++ blanks := by rw [hz, ← Option.some.inj hu]; simp
        rcases List.mem_append.1 hmem with hmem | hmem
        · exact hkey.notMem (by decide) hmem
        · exact absurd (hblanks _ hmem) (by decide)
  · intro h'
    obtain ⟨x, blanks, rfl, hx, hne, hblanks⟩ := h'
    exact ⟨u ++ x, blanks, (List.append_assoc _ _ _).symm, (hline x).trans hx, hne, hblanks⟩

/-! ## The statement among the others -/

theorem isMatch_of_mem_statementsFrom {keyword s : Text} {b : Bool} {g : Statement}
    (h : g ∈ (statementsFrom keyword b s).1) : IsMatch keyword g.text := by
  fun_induction statementsFrom keyword b s with
  | case1 => cases h
  | case2 b s g' rest hg hlt gs last hgs ih =>
    rw [hgs] at ih
    rcases List.mem_cons.1 h with rfl | h
    · exact (nextStatement?_eq_some_iff.1 hg).2.1
    · exact ih h
  | case3 b s g' rest hg =>
    rw [List.mem_singleton.1 h]
    exact (nextStatement?_eq_some_iff.1 hg).2.1

theorem isMatch_of_mem_useTexts {text s : Text} (h : text ∈ useTexts s) : IsMatch "use".toList text := by
  obtain ⟨g, hg, rfl⟩ := List.mem_map.1 h
  exact isMatch_of_mem_statementsFrom hg

/-- Whether a use statement is not read as one of the source behind this text: it is none, or it is the
name of a longer one. -/
def IsUnread (text before : Text) : Prop :=
  ¬ IsMatch "use".toList text ∨ EndsInKeyword "use".toList true before ∧ '\r' ∉ text ∧ '\n' ∉ text

theorem not_isUnread_of_semicolon {text a : Text} (htext : IsMatch "use".toList text)
    (ha : a.getLast? = some ';') : ¬ IsUnread text a :=
  not_or.2 ⟨not_not.2 htext, fun h => h.1.getLast?_ne ha⟩

theorem endsInKeyword_joinStatements_iff {keep : List Statement}
    (hkeep : ∀ g ∈ keep, IsStatement "use".toList g.text) {a : Text} :
    EndsInKeyword "use".toList true (joinStatements keep a) ↔
      EndsInKeyword "use".toList keep.isEmpty a := by
  cases keep with
  | nil => exact Iff.rfl
  | cons g keep =>
    have hjoin : joinStatements (g :: keep) a = joinStatements (g :: keep) [] ++ a := by
      simp [joinStatements]
    have hlast := joinStatements_getLast? (List.cons_ne_nil g keep) hkeep
    rw [hjoin, isKeyword_use.endsInKeyword_append_iff hlast, List.isEmpty_cons]

section
variable {lineBreak text : Text} (hbreak : IsLineBreak lineBreak) (htext : IsMatch "use".toList text)
include hbreak htext

theorem mem_useTexts_placeAmong_iff {s a b : Text} {gs : List Statement} {last : Text}
    (hs : useStatements s = (gs, last)) (hne : gs ≠ []) (hnew : text ∉ gs.map (·.text))
    (hplace : placeAmong text gs last = (a, b)) :
    text ∈ useTexts (joinStatements (placeStatement lineBreak text gs) last) ↔ ¬ IsUnread text a := by
  have hkey := isKeyword_use
  have hstatements : ∀ g ∈ gs, IsStatement "use".toList g.text := fun g hg =>
    ((statementsFrom_fits "use".toList true s).1 g (by rwa [show statementsFrom _ _ s = _ from hs])).1
  have hsplit := List.takeWhile_append_dropWhile (p := fun g : Statement => !(text < g.text)) (l := gs)
  rw [placeAmong] at hplace
  rw [placeStatement_eq]
  generalize gs.takeWhile (fun g => !(text < g.text)) = keep at *
  generalize gs.dropWhile (fun g => !(text < g.text)) = greater at *
  subst hsplit
  have hfound := hkey.statementsFrom_rest hs
  have hkeep : ∀ g ∈ keep, IsStatement "use".toList g.text := fun g hg =>
    hstatements g (List.mem_append_left _ hg)
  rw [useTexts, useStatements, statements, joinStatements_append, hkey.statementsFrom_join hs,
    Bool.true_and, List.map_append, List.mem_append]
  cases greater with
  | nil =>
    cases hplace
    rw [List.append_nil] at hne ⊢
    rw [joinStatements_cons, hkey.statementsFrom_lineBreak hbreak htext]
    exact iff_of_true (.inr List.mem_cons_self)
      (not_isUnread_of_semicolon htext (joinStatements_getLast? hne hkeep))
  | cons g gs' =>
    cases hplace
    rw [List.map_append, List.mem_append, not_or] at hnew
    obtain ⟨hnext, hrest⟩ := nextStatement?_of_statementsFrom_join hfound
    have hg := (nextStatement?_eq_some_iff.1 hnext).2.1
    rw [joinStatements_cons, joinStatements_cons, IsUnread, endsInKeyword_joinStatements_iff hkeep,
      or_iff_right (not_not.2 htext)]
    rcases hkey.nextStatement?_behind hnext htext (lineBreak ++ (g.text ++ joinStatements gs' last)) with
      ⟨hself, hnot⟩ | ⟨u, y, -, hy, hlonger, hends⟩
    · rw [statementsFrom_eq_of_some hself]
      exact iff_of_true (.inr List.mem_cons_self) hnot
    · rw [statementsFrom_eq_of_some hlonger, hkey.statementsFrom_lineBreak hbreak hg, hrest]
      refine iff_of_false ?_ (not_not.2 hends)
      have hlong : text ≠ y ++ text := fun heq => hy (List.append_left_eq_self.1 heq.symm)
      simp only [List.map_cons, List.mem_cons, not_or] at hnew ⊢
      exact ⟨hnew.1, hlong, hnew.2⟩

end

theorem mem_useTexts_placeImport_iff {text s t a b : Text} (hnew : text ∉ useTexts s)
    (h : placeImport text s = some t) (hplace : importPlace? text s = some (a, b)) :
    text ∈ useTexts t ↔ ¬ IsUnread text a := by
  have hbreak := sourceLineBreak_isLineBreak s
  by_cases htext : IsMatch "use".toList text
  case neg =>
    exact iff_of_false (fun hmem => htext (isMatch_of_mem_useTexts hmem)) (not_not.2 (.inl htext))
  case pos =>
    rw [placeImport] at h
    rw [importPlace?] at hplace
    cases hs : useStatements s with
    | mk gs last =>
      rw [useTexts, hs] at hnew
      rw [hs] at h hplace
      cases gs with
      | nil =>
        obtain ⟨⟨g, rest⟩, hg, rfl⟩ := Option.map_eq_some_iff.1 h
        rw [hg] at hplace
        cases hplace
        rw [useTexts_behind hbreak htext hg (by rw [hs])]
        exact iff_of_true List.mem_cons_self (not_isUnread_of_semicolon htext (nextStatement?_getLast? hg))
      | cons g gs =>
        cases h
        exact mem_useTexts_placeAmong_iff hbreak htext hs (List.cons_ne_nil g gs) hnew
          (Option.some.inj hplace)

/-! ## The warning -/

def HasStatement (keyword s : Text) : Prop :=
  ∃ x text rest, s = x ++ (text ++ rest) ∧ startsLine true x = true ∧ IsMatch keyword text

theorem nextStatement?_eq_none_iff_not_hasStatement {keyword s : Text} :
    nextStatement? keyword true s = none ↔ ¬ HasStatement keyword s := by
  rw [nextStatement?_eq_none_iff]
  constructor
  · intro hnone h'
    obtain ⟨x, text, rest, hs, hx, htext⟩ := h'
    have hread := hnone x (text ++ rest) hs hx
    rw [statementAt?_eq_some_iff.2 ⟨htext, rfl⟩] at hread
    cases hread
  · intro h x y hs hx
    refine Option.eq_none_iff_forall_ne_some.2 fun p hp => ?_
    obtain ⟨htext, rfl⟩ := statementAt?_eq_some_iff.1 hp
    exact h ⟨x, _, _, hs, hx, htext⟩

theorem useTexts_eq_nil_iff {s : Text} : useTexts s = [] ↔ ¬ HasStatement "use".toList s := by
  rw [useTexts, List.map_eq_nil_iff, useStatements, statements, statementsFrom_fst_eq_nil_iff,
    nextStatement?_eq_none_iff_not_hasStatement]

def Dependency.LacksPlace (d : Dependency) (s : Text) : Prop :=
  d.imported ≠ none ∧ ¬ HasStatement "use".toList s ∧ ¬ HasStatement "namespace".toList s

def Dependency.PlacesUnread (d : Dependency) (s : Text) : Prop :=
  ∃ name a b, d.imported = some name ∧ d.isImported s = false ∧
    importPlace? (useStatement name) s = some (a, b) ∧ IsUnread (useStatement name) a

section
variable {d : Dependency} {s : Text}

theorem Dependency.lacksPlace_iff : d.LacksPlace s ↔ d.addUse s = none ∧ d.isImported s = false := by
  rw [addUse_eq_none_iff, useTexts_eq_nil_iff, nextStatement?_eq_none_iff_not_hasStatement]
  constructor
  · intro h'
    obtain ⟨himport, huse, hnamespace⟩ := h'
    obtain ⟨name, hname⟩ := Option.ne_none_iff_exists'.1 himport
    refine ⟨.inr ⟨huse, hnamespace⟩, ?_⟩
    rw [← Bool.not_eq_true, isImported_iff hname, useTexts_eq_nil_iff.2 huse]
    exact List.not_mem_nil
  · intro h'
    obtain ⟨himported | hplace, hnot⟩ := h'
    · rw [himported] at hnot
      cases hnot
    · refine ⟨fun hnone => ?_, hplace⟩
      simp [isImported, hnone] at hnot

theorem Dependency.isImported_getD_addUse_iff :
    d.isImported ((d.addUse s).getD s) = false ↔ d.LacksPlace s ∨ d.PlacesUnread s := by
  rw [lacksPlace_iff]
  cases hadd : d.addUse s with
  | none =>
    refine ⟨fun h => .inl ⟨rfl, h⟩, fun h => ?_⟩
    rcases h with ⟨-, h⟩ | ⟨_, _, _, -, h, -⟩ <;> exact h
  | some t =>
    obtain ⟨name, a, w, b, hname, hplace, -⟩ := addUse_eq_some hadd
    have hnew : d.isImported s = false := by
      rw [← Bool.not_eq_true]
      intro himported
      rw [addUse_eq_none_iff.2 (.inl himported)] at hadd
      cases hadd
    have hput : placeImport (useStatement name) s = some t := by
      simp only [addUse, hname] at hadd
      exact (Option.ite_none_left_eq_some.1 hadd).2
    have hnotMem : useStatement name ∉ useTexts s := by rw [← isImported_iff hname, hnew]; decide
    rw [Option.getD_some, ← Bool.not_eq_true, isImported_iff hname,
      mem_useTexts_placeImport_iff hnotMem hput hplace, not_not, or_iff_right fun h => Option.some_ne_none t h.1]
    constructor
    · exact fun h => ⟨name, a, b, hname, hnew, hplace, h⟩
    · intro h'
      obtain ⟨name', a', b', hname', -, hplace', h⟩ := h'
      rw [hname] at hname'
      cases hname'
      rw [hplace] at hplace'
      cases hplace'
      exact h

theorem Dependency.PlacesUnread.not_lacksPlace (h : d.PlacesUnread s) : ¬ d.LacksPlace s := by
  obtain ⟨name, a, b, -, -, hplace, -⟩ := h
  intro h'
  obtain ⟨-, huse, hnamespace⟩ := h'
  have hnil : (useStatements s).1 = [] := List.map_eq_nil_iff.1 (useTexts_eq_nil_iff.2 huse)
  rw [importPlace?] at hplace
  generalize useStatements s = found at hplace hnil
  obtain ⟨gs, last⟩ := found
  obtain rfl : gs = [] := hnil
  rw [nextStatement?_eq_none_iff_not_hasStatement.2 hnamespace] at hplace
  cases hplace

theorem Dependency.getD_addUse_eq_self_iff : (d.addUse s).getD s = s ↔ d.addUse s = none := by
  refine ⟨fun h => ?_, fun h => by rw [h]; rfl⟩
  by_contra hne
  obtain ⟨t, ht⟩ := Option.ne_none_iff_exists'.1 hne
  obtain ⟨name, a, w, b, -, -, hs, hput, hline⟩ := addUse_eq_some ht
  obtain ⟨x, y, rfl, -⟩ := hline.eq_append (sourceLineBreak_isLineBreak s)
  have hlength := congrArg List.length h
  rw [ht, Option.getD_some, hput] at hlength
  simp only [hs, List.length_append, useStatement_eq, List.length_cons] at hlength
  omega

end

/-- A target that is injected into is reported with the warning exactly where the import has no place or
is unread at its place, so that the warning tells the truth but for the latter. -/
theorem Dependency.warns_of_injected {d : Dependency} {disk : Disk} {target : Target} {bytes : Bytes}
    {content rewritten updated : Text} (hread : disk.read target.path = .ok bytes)
    (htext : decodeUtf8 bytes = .ok content)
    (hrewrite : d.rewrite target.mode content = some rewritten)
    (h : d.inject target.mode content = .injected updated) :
    ∃ report : Report,
      (handleTarget d true disk target).result = .ok (report, disk) ∧
      ((handleTarget d false disk target).result =
        match disk.write target.path (utf8 updated) with
        | .error fault => .error (.unwritable target.path fault)
        | .ok after => .ok (report, after)) ∧
      (report.warning = some importWarning ↔ d.LacksPlace rewritten ∨ d.PlacesUnread rewritten) ∧
      ((report.warning = some importWarning ↔ d.LacksPlace rewritten) ↔ ¬ d.PlacesUnread rewritten) ∧
      (d.LacksPlace rewritten ↔ updated = rewritten ∧ d.isImported rewritten = false) := by
  obtain ⟨-, r, hr, rfl⟩ := inject_eq_injected_iff.1 h
  obtain rfl : r = rewritten := Option.some.inj (hr.symm.trans hrewrite)
  have hwarning : (d.report target content).warning = some importWarning ↔
      d.LacksPlace r ∨ d.PlacesUnread r := by
    rw [← isImported_getD_addUse_iff, report, h, warning]
    split <;> simp_all
  have hlacks : d.LacksPlace r ↔ (d.addUse r).getD r = r ∧ d.isImported r = false := by
    rw [getD_addUse_eq_self_iff, lacksPlace_iff]
  refine ⟨d.report target content, handleTarget_of_injected hread htext h,
    handleTarget_of_injected hread htext h, hwarning, ?_, hlacks⟩
  constructor
  · intro htrue hunread
    exact hunread.not_lacksPlace (htrue.1 (hwarning.2 (.inr hunread)))
  · intro hread
    exact hwarning.trans (or_iff_left hread)

theorem Dependency.warns_of_injected_importingController :
    ∃ rewritten report, importedDependency.rewrite .extend importingController = some rewritten ∧
      (handleTarget importedDependency true importingSource importingTarget).result =
        .ok (report, importingSource) ∧
      (report.warning = some importWarning ↔
        importedDependency.LacksPlace rewritten ∨ importedDependency.PlacesUnread rewritten) ∧
      report.warning = none ∧ ¬ importedDependency.LacksPlace rewritten ∧
      ¬ importedDependency.PlacesUnread rewritten := by
  have hsilent : (handleTarget importedDependency true importingSource
      importingTarget).result.toOption.all (fun p => p.1.warning = none) = true := by decide +kernel
  obtain ⟨updated, h⟩ := injects_importingController
  obtain ⟨-, rewritten, hrewrite, -⟩ := inject_eq_injected_iff.1 h
  have hread : importingSource.read importingTarget.path = .ok (utf8 importingController) := rfl
  obtain ⟨report, hresult, -, hwarning, -⟩ :=
    Dependency.warns_of_injected hread (decodeUtf8_utf8 _) hrewrite h
  have hnone : report.warning = none := by
    rw [hresult] at hsilent
    exact of_decide_eq_true hsilent
  have hplaced : ¬ (importedDependency.LacksPlace rewritten ∨ importedDependency.PlacesUnread rewritten) := by
    rw [← hwarning, hnone]
    exact (Option.some_ne_none _).symm
  exact ⟨rewritten, report, hrewrite, hresult, hwarning, hnone, not_or.1 hplaced⟩

def terminatedManifest : Manifest where
  pathTemplate := "\x7bname\x7d.php".toList
  extend := ["A".toList]
  dependency := { imported := some "App\\Security\\CompanyContext;".toList }

/-- A use statement with one semicolon too many is put below the namespace, and the warning says that it is
not. -/
theorem Dependency.not_warns_of_injected_terminatedManifest :
    ¬ ∀ (m : Manifest) (root : Text) (disk after : Disk) (target : Target) (bytes : Bytes)
      (content rewritten updated : Text) (report : Report), m.fault? = none → target ∈ m.targets root →
      disk.read target.path = .ok bytes → decodeUtf8 bytes = .ok content →
      m.dependency.rewrite target.mode content = some rewritten →
      m.dependency.inject target.mode content = .injected updated →
      (handleTarget m.dependency true disk target).result = .ok (report, after) →
      (report.warning = some importWarning ↔ m.dependency.LacksPlace rewritten) := by
  intro hall
  have hfound : ((terminatedManifest.dependency.appendParameter importingController).bind fun r =>
      (terminatedManifest.dependency.addUse r).map terminatedManifest.dependency.isImported) =
        some false := by decide +kernel
  obtain ⟨rewritten, hrewrite, hadd⟩ := Option.bind_eq_some_iff.1 hfound
  obtain ⟨updated, hadd, himported⟩ := Option.map_eq_some_iff.1 hadd
  have h : terminatedManifest.dependency.inject .extend importingController = .injected updated :=
    inject_eq_injected_iff.2 ⟨by decide +kernel, rewritten, hrewrite, by rw [hadd, Option.getD_some]⟩
  have hread : importingSource.read importingTarget.path = .ok (utf8 importingController) := rfl
  have hwarning : (terminatedManifest.dependency.report importingTarget importingController).warning =
      some importWarning := by
    simp only [report, importingTarget, h, warning, himported, Bool.false_eq_true, if_false]
  have hlacks := (hall terminatedManifest [] importingSource importingSource importingTarget _ _ rewritten
    updated _ (by decide +kernel) (by decide +kernel) hread (decodeUtf8_utf8 _) hrewrite h
    (handleTarget_of_injected hread (decodeUtf8_utf8 _) h)).1 hwarning
  rw [(lacksPlace_iff.1 hlacks).1] at hadd
  cases hadd

end Wiring
