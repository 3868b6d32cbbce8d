import Mathlib.Data.Char
import Mathlib.Data.List.Lex
import Mathlib.Data.List.Sort
import Wiring.Proofs.Preservation

/-!
# The order of the imports

A search for statements goes on over any text behind the semicolon it has reached, and a statement that
stays on one line can make room for another. So the search finds an added use statement where it was put,
and the others as before. Main statement: `Dependency.addUse_sorted`.
-/

namespace Wiring

/-! ## Statements in their texts -/

/-- Whether a text is a statement of a keyword: white space and a name up to a semicolon. -/
def IsMatch (keyword text : Text) : Prop :=
  ∃ blanks name, text = keyword ++ (blanks ++ (name ++ [';'])) ∧ (∀ c ∈ blanks, isBlank c = true) ∧
    (∀ c ∈ name.head?, isBlank c = false) ∧ (∀ c ∈ name, endsName c = false) ∧ isNamed blanks name = true

theorem isBlank_head_name {name : Text} (h : ∀ c ∈ name.head?, isBlank c = false) (rest : Text) :
    ∀ c ∈ (name ++ ';' :: rest).head?, isBlank c = false := by
  cases name with
  | nil => exact fun c hc => by rw [← Option.some.inj hc]; decide
  | cons d name => exact h

theorem statementAt?_eq_some_iff {keyword s text rest : Text} :
    statementAt? keyword s = some (text, rest) ↔ IsMatch keyword text ∧ s = text ++ rest := by
  simp only [statementAt?, Option.bind_eq_bind, Option.bind_eq_some_iff, after?_eq_some_iff,
    Option.ite_none_right_eq_some, Option.some.injEq, Prod.mk.injEq]
  constructor
  · intro h
    obtain ⟨z, rfl, r, hr, hnamed, rfl, rfl⟩ := h
    refine ⟨⟨_, _, by simp only [List.append_assoc], fun c => List.mem_takeWhile_imp, ?_, ?_, hnamed⟩, ?_⟩
    · intro c hc
      have hnot := List.head?_dropWhile_not isBlank z
      rw [List.head?_takeWhile, Option.mem_def, Option.filter_eq_some_iff] at hc
      rw [hc.1] at hnot
      exact hnot
    · intro c hc
      simpa using List.mem_takeWhile_imp hc
    · have hname := List.takeWhile_append_dropWhile (p := (!endsName ·)) (l := z.dropWhile isBlank)
      have hz := List.takeWhile_append_dropWhile (p := isBlank) (l := z)
      rw [hr] at hname
      rw [← hname] at hz
      simpa only [List.append_assoc, List.append_cancel_left_eq] using hz.symm
  · intro h
    obtain ⟨⟨blanks, name, rfl, hblanks, hhead, hname, hnamed⟩, rfl⟩ := h
    have h₁ := takeWhile_append_stop hblanks (isBlank_head_name hhead rest)
    have h₂ := takeWhile_append_stop (p := (!endsName ·)) (r := ';' :: rest)
      (fun c hc => by rw [hname c hc]; rfl) (by simp; decide)
    refine ⟨blanks ++ (name ++ ';' :: rest), by simp, rest, ?_, ?_⟩
    · rw [h₁.2, h₂.2]; rfl
    · rw [h₁.1, h₁.2, h₂.1]
      exact ⟨hnamed, by simp, rfl⟩

/-- How far the white space goes into what follows it is all one: behind some of it there is something up to
the semicolon, on one line. -/
theorem isMatch_iff {keyword text : Text} : IsMatch keyword text ↔
    ∃ g name, text = keyword ++ (g ++ (name ++ [';'])) ∧ g ≠ [] ∧ (∀ c ∈ g, isBlank c = true) ∧
      name ≠ [] ∧ ∀ c ∈ name, endsName c = false := by
  constructor
  · intro h
    obtain ⟨blanks, name, rfl, hblanks, -, hname, hnamed⟩ := h
    simp only [isNamed, Bool.and_eq_true, Bool.or_eq_true, decide_eq_true_eq] at hnamed
    obtain ⟨hne, hnamed⟩ := hnamed
    by_cases hn : name = []
    · -- the last of the white space is the name
      obtain ⟨g, e, rfl⟩ := (List.eq_nil_or_concat blanks).resolve_left hne
      obtain ⟨hlt, he⟩ := hnamed.resolve_left (not_not.2 hn)
      rw [List.concat_eq_append] at hblanks hlt he ⊢
      rw [List.length_append, List.length_singleton] at hlt
      rw [List.getLast?_concat, Option.any_some, Bool.not_eq_true'] at he
      refine ⟨g, [e], by rw [hn, List.append_assoc]; rfl, ?_, ?_, List.cons_ne_nil e [], ?_⟩
      · exact List.ne_nil_of_length_pos (by omega)
      · exact fun c hc => hblanks c (List.mem_append_left _ hc)
      · exact List.forall_mem_singleton.2 he
    · exact ⟨blanks, name, rfl, hne, hblanks, hn, hname⟩
  · intro h
    obtain ⟨g, name, rfl, hg, hblanks, hn, hname⟩ := h
    have hsplit := List.takeWhile_append_dropWhile (p := isBlank) (l := name)
    refine ⟨g ++ name.takeWhile isBlank, name.dropWhile isBlank, ?_, ?_, ?_, ?_, ?_⟩
    · rw [List.append_assoc g, ← List.append_assoc (name.takeWhile _), hsplit]
    · exact fun c hc => (List.mem_append.1 hc).elim (hblanks c) List.mem_takeWhile_imp
    · intro c hc
      have hnot := List.head?_dropWhile_not isBlank name
      rw [hc] at hnot
      exact hnot
    · exact fun c hc => hname c ((List.dropWhile_suffix _).subset hc)
    · cases hrest : name.dropWhile isBlank with
      | cons c m => simp [isNamed, hg]
      | nil =>
        rw [hrest, List.append_nil] at hsplit
        rw [hsplit]
        obtain ⟨m, e, rfl⟩ := (List.eq_nil_or_concat name).resolve_left hn
        have he : endsName e = false := hname e (by simp)
        have hlt : 1 < (g ++ m.concat e).length := by
          have := List.length_pos_iff.2 hg
          rw [List.length_append, List.length_concat]
          omega
        have hlast : (g ++ m.concat e).getLast?.any endsName = false := by simp [he]
        rw [isNamed, decide_eq_true hlt, hlast]
        simp [hg]

theorem IsMatch.ne_nil {keyword text : Text} (h : IsMatch keyword text) : text ≠ [] := by
  obtain ⟨blanks, name, rfl, -⟩ := h
  simp

theorem IsMatch.getLast? {keyword text : Text} (h : IsMatch keyword text) : text.getLast? = some ';' := by
  obtain ⟨blanks, name, rfl, -⟩ := h
  simp [List.getLast?_append]

theorem statementAt?_nil (keyword : Text) : statementAt? keyword [] = none := by
  refine Option.eq_none_iff_forall_ne_some.2 fun p hp => ?_
  obtain ⟨htext, hnil⟩ := statementAt?_eq_some_iff.1 hp
  exact htext.ne_nil (List.append_eq_nil_iff.1 hnil.symm).1

/-! ## The first statement of a text -/

/-- Whether a line starts behind a text. `atStart` says whether the text itself starts one. -/
def startsLine (atStart : Bool) (x : Text) : Bool := x.getLast?.elim atStart (· == '\n')

theorem getLast?_of_startsLine {b : Bool} {x u y : Text} (h : startsLine b x = true) (hx : x = u ++ y)
    (hy : y ≠ []) : y.getLast? = some '\n' := by
  obtain ⟨v, c, rfl⟩ := (List.eq_nil_or_concat y).resolve_left hy
  subst hx
  simpa [startsLine] using h

def lineStatement? (keyword : Text) (atStart : Bool) (before rest : Text) : Option (Text × Text) :=
  if startsLine atStart before then statementAt? keyword rest else none

def leftmostStatement? (keyword : Text) (atStart : Bool) (s : Text) : Option (Text × Text × Text) :=
  leftmost (fun before rest =>
    (lineStatement? keyword atStart before.reverse rest).map fun x => (before.reverse, x)) s

section
variable {keyword : Text} {b : Bool} {s : Text}

theorem leftmostFrom_lineStatement? (p : Text) :
    leftmostFrom (fun before rest =>
        (lineStatement? keyword b before.reverse rest).map fun x => (before.reverse, x)) p s =
      (nextStatement? keyword (startsLine b p.reverse) s).map fun (g, rest) =>
        (p.reverse ++ g.before, (g.text, rest)) := by
  induction s generalizing p with
  | nil => simp [leftmostFrom, lineStatement?, statementAt?_nil, nextStatement?]
  | cons c s ih =>
    have hnext : startsLine b (c :: p).reverse = (c == '\n') := by simp [startsLine]
    rw [leftmostFrom, nextStatement?, ih, hnext, lineStatement?]
    cases (if startsLine b p.reverse then statementAt? keyword (c :: s) else none) with
    | some x => simp
    | none => simp [Function.comp_def]

theorem leftmostStatement?_eq : leftmostStatement? keyword b s =
    (nextStatement? keyword b s).map fun (g, rest) => (g.before, (g.text, rest)) :=
  leftmostFrom_lineStatement? []

theorem nextStatement?_eq_none_iff : nextStatement? keyword b s = none ↔
    ∀ x y, s = x ++ y → startsLine b x = true → statementAt? keyword y = none := by
  have hsearch : leftmostStatement? keyword b s = none ↔ _ := leftmost_eq_none_iff
  rw [leftmostStatement?_eq, Option.map_eq_none_iff] at hsearch
  simpa only [Option.map_eq_none_iff, lineStatement?, List.reverse_reverse, ite_eq_right_iff] using hsearch

/-- The first statement is read where a line starts, and none is read where a line starts before it. -/
theorem nextStatement?_eq_some_iff {g : Statement} {rest : Text} :
    nextStatement? keyword b s = some (g, rest) ↔
      s = g.before ++ (g.text ++ rest) ∧ IsMatch keyword g.text ∧ startsLine b g.before = true ∧
        ∀ x y, g.before = x ++ y → y ≠ [] → startsLine b x = true →
          statementAt? keyword (y ++ (g.text ++ rest)) = none := by
  have hsearch : leftmostStatement? keyword b s = some (g.before, (g.text, rest)) ↔ _ :=
    leftmost_placed_eq_some_iff
  have hsplit : (nextStatement? keyword b s).map (fun (g, rest) => (g.before, (g.text, rest))) =
      some (g.before, (g.text, rest)) ↔ nextStatement? keyword b s = some (g, rest) := by
    refine (Option.map_injective ?_).eq_iff (b := some (g, rest))
    rintro ⟨⟨_, _⟩, _⟩ ⟨⟨_, _⟩, _⟩ ⟨⟩
    rfl
  rw [leftmostStatement?_eq, hsplit] at hsearch
  rw [hsearch]
  simp only [lineStatement?, Option.ite_none_right_eq_some, statementAt?_eq_some_iff, ite_eq_right_iff]
  constructor
  · intro h
    obtain ⟨r, rfl, ⟨hline, htext, rfl⟩, hfirst⟩ := h
    exact ⟨rfl, htext, hline, hfirst⟩
  · intro h
    obtain ⟨rfl, htext, hline, hfirst⟩ := h
    exact ⟨_, rfl, ⟨hline, htext, rfl⟩, hfirst⟩

theorem IsMatch.nextStatement?_eq {text : Text} (h : IsMatch keyword text) (rest : Text) :
    nextStatement? keyword true (text ++ rest) = some (⟨[], text⟩, rest) := by
  refine nextStatement?_eq_some_iff.2 ⟨rfl, h, rfl, fun x y hx hy => absurd ?_ hy⟩
  exact (List.append_eq_nil_iff.1 hx.symm).2

end

structure IsKeyword (keyword : Text) : Prop where
  ne_nil : keyword ≠ []
  isBlank_eq : ∀ c ∈ keyword, isBlank c = false
  endsName_eq : ∀ c ∈ keyword, endsName c = false

theorem isKeyword_use : IsKeyword "use".toList where
  ne_nil := by decide
  isBlank_eq := List.all_iff_forall_prop.1 (by decide)
  endsName_eq := List.all_iff_forall_prop.1 (by decide)

theorem endsName_eq_false_iff {c : Char} : endsName c = false ↔ c ≠ ';' ∧ c ≠ '\r' ∧ c ≠ '\n' := by
  simp [endsName, and_assoc]

section
variable {keyword : Text} (hkey : IsKeyword keyword)
include hkey

theorem IsKeyword.notMem {e : Char} (he : endsName e = true) : e ∉ keyword := fun hmem => by
  rw [hkey.endsName_eq e hmem] at he
  cases he

theorem IsKeyword.eq_concat {text : Text} (h : IsMatch keyword text) :
    ∃ x, text = keyword ++ (x ++ [';']) ∧ ';' ∉ keyword ++ x := by
  obtain ⟨blanks, name, rfl, hblanks, -, hname, -⟩ := h
  refine ⟨blanks ++ name, by rw [List.append_assoc], ?_⟩
  simp only [List.mem_append, not_or]
  exact ⟨hkey.notMem (by decide), fun hmem => absurd (hblanks _ hmem) (by decide),
    fun hmem => absurd (hname _ hmem) (by decide)⟩

/-- Behind a semicolon, no statement that starts before it is read. -/
theorem IsKeyword.statementAt?_past_semicolon {u : Text} (hu : ';' ∈ u) (r : Text) :
    statementAt? keyword (u ++ r) = (statementAt? keyword u).map fun p => (p.1, p.2 ++ r) := by
  refine Option.ext fun p => ?_
  obtain ⟨text, rest⟩ := p
  simp only [Option.map_eq_some_iff, Prod.exists, Prod.mk.injEq, statementAt?_eq_some_iff]
  constructor
  · intro h
    obtain ⟨htext, h⟩ := h
    rcases List.append_eq_append_iff.1 h with ⟨m, rfl, rfl⟩ | ⟨m, rfl, rfl⟩
    · obtain ⟨x, hx, hnot⟩ := hkey.eq_concat htext
      rcases List.eq_nil_or_concat m with rfl | ⟨m, e, rfl⟩
      · rw [List.append_nil] at htext ⊢
        exact ⟨u, [], ⟨htext, (List.append_nil u).symm⟩, rfl, rfl⟩
      · rw [List.concat_eq_append, ← List.append_assoc, ← List.append_assoc] at hx
        rw [← (List.append_inj' hx rfl).1] at hnot
        exact absurd (List.mem_append_left m hu) hnot
    · exact ⟨text, m, ⟨htext, rfl⟩, rfl, rfl⟩
  · intro h
    obtain ⟨_, m, ⟨htext, rfl⟩, rfl, rfl⟩ := h
    exact ⟨htext, List.append_assoc _ m r⟩

theorem IsKeyword.nextStatement?_past_semicolon {u : Text} (hu : u.getLast? = some ';') (atStart : Bool) (r : Text) :
    nextStatement? keyword atStart (u ++ r) = match nextStatement? keyword atStart u with
      | some (g, m) => some (g, m ++ r)
      | none => (nextStatement? keyword false r).map fun (g, rest) =>
        ({ g with before := u ++ g.before }, rest) := by
  induction u generalizing atStart with
  | nil => cases hu
  | cons c u ih =>
    have hmem : ';' ∈ c :: u := List.mem_of_getLast? hu
    have hread : (if atStart then statementAt? keyword (c :: (u ++ r)) else none) =
        (if atStart then statementAt? keyword (c :: u) else none).map fun p => (p.1, p.2 ++ r) := by
      cases atStart with
      | false => rfl
      | true => exact hkey.statementAt?_past_semicolon hmem r
    rw [List.cons_append, nextStatement?, nextStatement?, hread]
    cases (if atStart then statementAt? keyword (c :: u) else none) with
    | some p => rfl
    | none =>
      cases u with
      | nil =>
        obtain rfl : c = ';' := Option.some.inj hu
        rfl
      | cons d u =>
        simp only [Option.map_none, ih (by rwa [List.getLast?_cons_cons] at hu)]
        cases nextStatement? keyword (c == '\n') (d :: u) with
        | some p => rfl
        | none => simp only [Option.map_none, Option.map_map, Function.comp_def, List.cons_append]

theorem IsKeyword.nextStatement?_append_of_some {b : Bool} {g : Statement} {r rest : Text}
    (h : nextStatement? keyword b (g.before ++ (g.text ++ r)) = some (g, r)) :
    nextStatement? keyword b (g.before ++ (g.text ++ rest)) = some (g, rest) := by
  obtain ⟨-, htext, hline, hfirst⟩ := nextStatement?_eq_some_iff.1 h
  refine nextStatement?_eq_some_iff.2 ⟨rfl, htext, hline, fun x y hx hy hx' => ?_⟩
  have hmem : ';' ∈ y ++ g.text := List.mem_append_right y (List.mem_of_getLast? htext.getLast?)
  have hnone := hfirst x y hx hy hx'
  rw [← List.append_assoc, hkey.statementAt?_past_semicolon hmem, Option.map_eq_none_iff] at hnone ⊢
  exact hnone

end

/-! ## Statements one after the other -/

section
variable {keyword s last : Text} {b : Bool} {g : Statement} {gs : List Statement}

theorem nextStatement?_length_lt {rest : Text} (h : nextStatement? keyword b s = some (g, rest)) :
    rest.length < s.length := by
  obtain ⟨c, m, -, htext⟩ := (nextStatement?_fits h).1
  rw [← nextStatement?_append h, htext]
  simp only [List.length_append, List.length_cons]
  omega

theorem statementsFrom_eq_of_none (h : nextStatement? keyword b s = none) :
    statementsFrom keyword b s = ([], s) := by
  rw [statementsFrom, h]

theorem statementsFrom_eq_of_some {rest : Text} (h : nextStatement? keyword b s = some (g, rest)) :
    statementsFrom keyword b s =
      (g :: (statementsFrom keyword false rest).1, (statementsFrom keyword false rest).2) := by
  rw [statementsFrom, h]
  simp only [nextStatement?_length_lt h, if_true]

theorem statementsFrom_fst_eq_nil_iff :
    (statementsFrom keyword b s).1 = [] ↔ nextStatement? keyword b s = none := by
  cases h : nextStatement? keyword b s with
  | none => simp [statementsFrom_eq_of_none h]
  | some p => simp [statementsFrom_eq_of_some h]

theorem exists_of_statementsFrom_cons (h : statementsFrom keyword b s = (g :: gs, last)) :
    ∃ rest, nextStatement? keyword b s = some (g, rest) ∧ statementsFrom keyword false rest = (gs, last) := by
  cases hnext : nextStatement? keyword b s with
  | none =>
    rw [statementsFrom_eq_of_none hnext] at h
    cases h
  | some p =>
    obtain ⟨g', rest⟩ := p
    rw [statementsFrom_eq_of_some hnext] at h
    cases h
    exact ⟨rest, rfl, rfl⟩

theorem nextStatement?_of_statementsFrom_join
    (h : statementsFrom keyword b (joinStatements (g :: gs) last) = (g :: gs, last)) :
    nextStatement? keyword b (g.before ++ (g.text ++ joinStatements gs last)) =
        some (g, joinStatements gs last) ∧
      statementsFrom keyword false (joinStatements gs last) = (gs, last) := by
  obtain ⟨rest, hnext, hrest⟩ := exists_of_statementsFrom_cons h
  obtain rfl : rest = joinStatements gs last := by
    have := nextStatement?_append hnext
    rwa [joinStatements_cons, List.append_assoc, List.append_cancel_left_eq,
      List.append_cancel_left_eq] at this
  rw [joinStatements_cons] at hnext
  exact ⟨hnext, hrest⟩

theorem IsKeyword.statementsFrom_join (hkey : IsKeyword keyword) {keep : List Statement}
    (h : statementsFrom keyword b s = (keep ++ gs, last)) (r : Text) :
    statementsFrom keyword b (joinStatements keep r) =
      (keep ++ (statementsFrom keyword (b && keep.isEmpty) r).1,
        (statementsFrom keyword (b && keep.isEmpty) r).2) := by
  induction keep generalizing b s with
  | nil => simp [joinStatements]
  | cons g keep ih =>
    obtain ⟨rest, hnext, hrest⟩ := exists_of_statementsFrom_cons h
    have hs := nextStatement?_append hnext
    rw [← hs, List.append_assoc] at hnext
    rw [joinStatements_cons,
      statementsFrom_eq_of_some (hkey.nextStatement?_append_of_some hnext), ih hrest]
    simp

/-- Behind some of the statements, the others are found in the rest of the text. -/
theorem IsKeyword.statementsFrom_rest (hkey : IsKeyword keyword) {keep : List Statement}
    (h : statements keyword s = (keep ++ gs, last)) :
    statementsFrom keyword keep.isEmpty (joinStatements gs last) = (gs, last) := by
  have hjoin := joinStatements_statements keyword s
  have hrest := hkey.statementsFrom_join h (joinStatements gs last)
  rw [h, joinStatements_append] at hjoin
  rw [hjoin, ← statements, h, Bool.true_and, Prod.mk.injEq, List.append_cancel_left_eq] at hrest
  exact Prod.ext hrest.1.symm hrest.2.symm

end

/-! ## Room for another statement -/

section
variable {keyword : Text} (hkey : IsKeyword keyword)
include hkey

/-- A statement that goes on behind a line has only white space behind its keyword on it. -/
theorem IsKeyword.exists_blanks_of_match {q m : Text} (hq : q.getLast? = some '\n')
    (h : IsMatch keyword (q ++ m)) :
    ∃ blanks, q = keyword ++ blanks ∧ (∀ c ∈ blanks, isBlank c = true) ∧ blanks ≠ [] := by
  obtain ⟨blanks, name, heq, hblanks, -, hname, -⟩ := h
  have hfeed : '\n' ∉ keyword := hkey.notMem (by decide)
  rw [← List.append_assoc] at heq
  obtain ⟨y, hy⟩ : q <+: keyword ++ blanks := by
    rcases List.append_eq_append_iff.1 heq with ⟨z, hz, -⟩ | ⟨z, rfl, hz⟩
    · exact ⟨z, hz.symm⟩
    · rcases List.eq_nil_or_concat z with rfl | ⟨z, e, rfl⟩
      · exact List.append_nil _ ▸ List.prefix_rfl
      · -- a name ends at the end of its line
        rw [List.concat_eq_append, ← List.append_assoc, List.getLast?_concat, Option.some.injEq] at hq
        have hmem : e ∈ name ++ [';'] := by rw [hz]; simp
        rw [hq] at hmem
        rcases List.mem_append.1 hmem with hmem | hmem
        · exact absurd (hname _ hmem) (by decide)
        · exact absurd hmem (by decide)
  rcases List.append_eq_append_iff.1 hy with ⟨z, rfl, -⟩ | ⟨z, rfl, rfl⟩
  · exact absurd (List.mem_append_left z (List.mem_of_getLast? hq)) hfeed
  · refine ⟨z, rfl, fun c hc => hblanks c (List.mem_append_left y hc), ?_⟩
    rintro rfl
    rw [List.append_nil] at hq
    exact hfeed (List.mem_of_getLast? hq)

/-- White space between a keyword and a statement on one line makes the statement a name. -/
theorem IsKeyword.isMatch_longer {blanks text : Text} (hblanks : ∀ c ∈ blanks, isBlank c = true)
    (hne : blanks ≠ []) (htext : IsMatch keyword text) (hline : '\r' ∉ text ∧ '\n' ∉ text) :
    IsMatch keyword (keyword ++ blanks ++ text) := by
  obtain ⟨x, rfl, hx⟩ := hkey.eq_concat htext
  rw [← List.append_assoc keyword x] at hline
  refine isMatch_iff.2 ⟨blanks, keyword ++ x, by simp, hne, hblanks, ?_, fun e he => ?_⟩
  · exact List.append_ne_nil_of_left_ne_nil hkey.ne_nil x
  · refine endsName_eq_false_iff.2 ⟨?_, ?_, ?_⟩ <;> rintro rfl
    · exact hx he
    · exact hline.1 (List.mem_append_left _ he)
    · exact hline.2 (List.mem_append_left _ he)

theorem IsKeyword.nextStatement?_cons_blank {c : Char} (hc : isBlank c = true) (b : Bool) (s : Text) :
    nextStatement? keyword b (c :: s) =
      (nextStatement? keyword (c == '\n') s).map fun (g, rest) => ({ g with before := c :: g.before }, rest) := by
  have hnone : (if b = true then statementAt? keyword (c :: s) else none) = none := by
    refine Option.eq_none_iff_forall_ne_some.2 fun p hp => ?_
    obtain ⟨⟨_, _, htext, -⟩, heq⟩ := statementAt?_eq_some_iff.1 (Option.ite_none_right_eq_some.1 hp).2
    obtain ⟨d, k, hk⟩ := List.exists_cons_of_ne_nil hkey.ne_nil
    rw [htext, hk] at heq
    have hd := hkey.isBlank_eq d (hk ▸ List.mem_cons_self)
    rw [← (List.cons.inj heq).1, hc] at hd
    cases hd
  rw [nextStatement?, hnone]

theorem IsKeyword.nextStatement?_lineBreak {lineBreak : Text} (h : IsLineBreak lineBreak) (b : Bool)
    (s : Text) : nextStatement? keyword b (lineBreak ++ s) =
      (nextStatement? keyword true s).map fun (g, rest) => ({ g with before := lineBreak ++ g.before }, rest) := by
  rcases h with rfl | rfl
  · exact hkey.nextStatement?_cons_blank (by decide) b s
  · rw [List.cons_append, List.singleton_append, hkey.nextStatement?_cons_blank (by decide),
      hkey.nextStatement?_cons_blank (by decide), Option.map_map]
    rfl

/-- A statement on a line of its own is the next one behind the line break. -/
theorem IsKeyword.statementsFrom_lineBreak {lineBreak text : Text} (h : IsLineBreak lineBreak)
    (htext : IsMatch keyword text) (b : Bool) (rest : Text) :
    statementsFrom keyword b (lineBreak ++ (text ++ rest)) =
      (⟨lineBreak, text⟩ :: (statementsFrom keyword false rest).1, (statementsFrom keyword false rest).2) := by
  refine statementsFrom_eq_of_some ?_
  rw [hkey.nextStatement?_lineBreak h, htext.nextStatement?_eq, Option.map_some]
  simp only [List.append_nil]

end

/-! ## The place of a use statement -/

section
variable {lineBreak text : Text} (hbreak : IsLineBreak lineBreak) (htext : IsMatch "use".toList text)
include hbreak htext

/-- Behind a semicolon, a statement on a line of its own is the only one where there was none. -/
theorem useStatements_of_semicolon {u rest : Text} (hu : u.getLast? = some ';')
    (hnone : (useStatements (u ++ rest)).1 = []) :
    useStatements (u ++ (lineBreak ++ (lineBreak ++ (text ++ rest)))) =
      ([⟨u ++ (lineBreak ++ lineBreak), text⟩], rest) := by
  have hkey := isKeyword_use
  have hnext := statementsFrom_fst_eq_nil_iff.1 hnone
  rw [hkey.nextStatement?_past_semicolon hu] at hnext
  cases hin : nextStatement? "use".toList true u with
  | some p => rw [hin] at hnext; cases hnext
  | none =>
    rw [hin] at hnext
    have hrest := statementsFrom_eq_of_none (Option.map_eq_none_iff.1 hnext)
    have hplaced : nextStatement? "use".toList true (u ++ (lineBreak ++ (lineBreak ++ (text ++ rest)))) =
        some (⟨u ++ (lineBreak ++ lineBreak), text⟩, rest) := by
      rw [hkey.nextStatement?_past_semicolon hu, hin, hkey.nextStatement?_lineBreak hbreak,
        hkey.nextStatement?_lineBreak hbreak, htext.nextStatement?_eq]
      simp
    rw [useStatements, statements, statementsFrom_eq_of_some hplaced, hrest]

end

/-! ## The order -/

def useTexts (s : Text) : List Text := (useStatements s).1.map (·.text)

theorem nextStatement?_getLast? {keyword : Text} {b : Bool} {s rest : Text} {g : Statement}
    (h : nextStatement? keyword b s = some (g, rest)) : (g.before ++ g.text).getLast? = some ';' := by
  rw [List.getLast?_append, (nextStatement?_fits h).1.getLast?]
  rfl

theorem useTexts_behind {keyword lineBreak text s rest : Text} {g : Statement}
    (hbreak : IsLineBreak lineBreak) (htext : IsMatch "use".toList text)
    (hg : nextStatement? keyword true s = some (g, rest)) (hs : (useStatements s).1 = []) :
    useTexts (g.before ++ g.text ++ lineBreak ++ lineBreak ++ text ++ rest) = [text] := by
  rw [← nextStatement?_append hg] at hs
  have hfound := useStatements_of_semicolon hbreak htext (nextStatement?_getLast? hg) hs
  simp only [List.append_assoc] at hfound
  simp [useTexts, hfound]

theorem placeImport_eq_none_iff {text s : Text} :
    placeImport text s = none ↔ useTexts s = [] ∧ nextStatement? "namespace".toList true s = none := by
  rw [placeImport, useTexts]
  generalize useStatements s = found
  obtain ⟨gs, last⟩ := found
  cases gs with
  | nil => simp
  | cons g gs => simp

theorem Dependency.addUse_eq_none_iff {d : Dependency} {s : Text} : d.addUse s = none ↔
    d.isImported s = true ∨ useTexts s = [] ∧ nextStatement? "namespace".toList true s = none := by
  rw [addUse]
  cases hname : d.imported with
  | none => simp [isImported, hname]
  | some name =>
    by_cases h : d.isImported s = true
    · simp [h]
    · simp [h, placeImport_eq_none_iff]

theorem Dependency.isImported_iff {d : Dependency} {name s : Text} (hname : d.imported = some name) :
    d.isImported s = true ↔ useStatement name ∈ useTexts s := by
  simp [isImported, hname, useTexts]

end Wiring
