import Wiring.Proofs.Tracking
import Wiring.Proofs.Grammar

/-!
# Open constructors are used up

A parameter that is added makes the first parenthesis that closes an open constructor close none, and
leaves the others as they are. So a source takes as many parameters as it has such parentheses. Main
statement: `Dependency.IsNamed.appendParameter_uses_up`.
-/

namespace Wiring

/-! ## The parentheses of a text -/

def OpenConstructor.list (o : OpenConstructor) : Text := o.before ++ o.closing.takeWhile isIndent

/-- Whether a parenthesis between two parts of a text closes an open constructor, wherever that starts. -/
def ClosesOpen (x y : Text) : Prop :=
  ∃ (u : Text) (o : OpenConstructor), o.IsLaidOut ∧ x = u ++ o.list ∧ x ++ ')' :: y = u ++ o.text

theorem OpenConstructor.Fits.text_eq_list {o : OpenConstructor} (h : o.Fits) :
    ∃ g, o.text = o.list ++ ')' :: (g ++ '{' :: o.rest) ∧ ')' ∉ o.list := by
  obtain ⟨i, hcomma, hi⟩ := h.comma
  obtain ⟨j, g, hclosing, hj, -⟩ := h.closing
  have hparen : isBlank ')' = false := by decide
  have hj' : o.closing.takeWhile isIndent = j := by
    rw [hclosing]
    exact (takeWhile_append_stop (r := ')' :: (g ++ ['{'])) hj (by simp; decide)).1
  refine ⟨g, ?_, ?_⟩
  · rw [list, hj', text, hclosing]
    simp [before]
  · have hi := notMem_of_isBlank (fun c hc => isBlank_of_isIndent (hi c hc)) hparen
    have hj := notMem_of_isBlank (fun c hc => isBlank_of_isIndent (hj c hc)) hparen
    have hb := notMem_of_isBlank h.lineBreak.isBlank hparen
    simp [list, before, hj', hcomma, h.head, hi, hb, hj]

theorem closesOpen_iff_exists_suffix {x y : Text} : ClosesOpen x y ↔
    ∃ v, v <:+ x ∧ ')' ∉ v ∧ (openConstructor? (v ++ ')' :: y)).isSome = true := by
  constructor
  · intro h
    obtain ⟨u, o, ho, rfl, htext⟩ := h
    obtain ⟨g, -, hlist⟩ := ho.fits.text_eq_list
    rw [List.append_assoc, List.append_cancel_left_eq] at htext
    refine ⟨o.list, List.suffix_append _ _, hlist, ?_⟩
    rw [htext, openConstructor?_eq_some_iff.2 ⟨ho, rfl⟩, Option.isSome_some]
  · intro h
    obtain ⟨v, ⟨u, rfl⟩, hv, hsome⟩ := h
    obtain ⟨o, ho⟩ := Option.isSome_iff_exists.1 hsome
    obtain ⟨hlaid, htext⟩ := openConstructor?_eq_some_iff.1 ho
    obtain ⟨g, hg, hlist⟩ := hlaid.fits.text_eq_list
    obtain ⟨rfl, -⟩ := append_cons_inj hv hlist (htext.trans hg)
    exact ⟨u, o, hlaid, rfl, by rw [List.append_assoc, htext]⟩

instance (x y : Text) : Decidable (ClosesOpen x y) :=
  decidable_of_iff (∃ v ∈ x.tails, ')' ∉ v ∧ (openConstructor? (v ++ ')' :: y)).isSome = true) <| by
    simp only [List.mem_tails, closesOpen_iff_exists_suffix]

def EndsOpenList (x : Text) : Prop :=
  ∃ n pre, n ++ '(' :: pre <:+ x ∧ ')' ∉ n ++ '(' :: pre ∧
    (∀ r, publicConstructor.after? (n ++ '(' :: r) = some r) ∧ EndsOpen pre

theorem closesOpen_iff {x y : Text} : ClosesOpen x y ↔ EndsOpenList x ∧ OpensBody y := by
  rw [closesOpen_iff_exists_suffix]
  simp only [openConstructor?_isSome_iff_layout]
  constructor
  · intro h
    obtain ⟨v, hvx, hv, n, pre, post, heq, hp, hname, hends, hbody⟩ := h
    obtain ⟨rfl, rfl⟩ := append_cons_inj hv hp heq
    exact ⟨⟨n, pre, hvx, hp, hname, hends⟩, hbody⟩
  · intro h
    obtain ⟨⟨n, pre, hvx, hp, hname, hends⟩, hbody⟩ := h
    exact ⟨_, hvx, hp, n, pre, y, rfl, hp, hname, hends, hbody⟩

theorem EndsOpenList.endsOpen {x : Text} (h : EndsOpenList x) : EndsOpen x := by
  obtain ⟨n, pre, ⟨u, rfl⟩, -, -, hends⟩ := h
  simpa using hends.append (u ++ n ++ ['('])

/-- A list does not reach back over the parenthesis that closes another. -/
theorem endsOpenList_append_close_iff {p x : Text} :
    EndsOpenList (p ++ ')' :: x) ↔ EndsOpenList x := by
  constructor
  · intro h
    obtain ⟨n, pre, hsuffix, hp, h⟩ := h
    refine ⟨n, pre, ?_, hp, h⟩
    rw [show p ++ ')' :: x = (p ++ [')']) ++ x by simp] at hsuffix
    rcases suffix_append_cases hsuffix with hx | ⟨z, hz, hzp, heq⟩
    · exact hx
    · have hclose := mem_getLast?_of_suffix hzp (List.getLast?_eq_some_getLast hz)
      rw [List.getLast?_concat, Option.mem_some_iff] at hclose
      have hmem : ')' ∈ z := hclose ▸ List.getLast_mem hz
      exact absurd (heq ▸ List.mem_append_left x hmem) hp
  · intro h
    obtain ⟨n, pre, hsuffix, h⟩ := h
    exact ⟨n, pre, (hsuffix.trans (List.suffix_cons _ _)).trans (List.suffix_append _ _), h⟩

def openParenthesesFrom (before : Text) : Text → List Nat
  | [] => []
  | c :: s =>
    if c = ')' ∧ ClosesOpen before s then byteLength before :: openParenthesesFrom (before ++ [c]) s
    else openParenthesesFrom (before ++ [c]) s

/-- The byte offsets of the parentheses that close an open constructor, in the order of the text. -/
def openParentheses (s : Text) : List Nat := openParenthesesFrom [] s

theorem openParenthesesFrom_append {p s r : Text}
    (h : ∀ x y, s = x ++ ')' :: y → ¬ ClosesOpen (p ++ x) (y ++ r)) :
    openParenthesesFrom p (s ++ r) = openParenthesesFrom (p ++ s) r := by
  induction s generalizing p with
  | nil => simp
  | cons c s ih =>
    have hc : ¬ (c = ')' ∧ ClosesOpen p (s ++ r)) := by
      rintro ⟨rfl, hclose⟩
      exact h [] s rfl (by simpa using hclose)
    have ih := ih (p := p ++ [c]) fun x y hs => by simpa using h (c :: x) y (by simp [hs])
    rw [List.cons_append, openParenthesesFrom, if_neg hc, ih]
    simp

/-- Behind a closed list it does not matter what stands before. -/
theorem openParenthesesFrom_congr {p p' s r : Text} {k : Nat} (hk : byteLength p' = byteLength p + k) :
    openParenthesesFrom (p' ++ ')' :: s) r = (openParenthesesFrom (p ++ ')' :: s) r).map (· + k) := by
  induction r generalizing s with
  | nil => rfl
  | cons c r ih =>
    have ih := ih (s := s ++ [c])
    have hiff : ClosesOpen (p' ++ ')' :: s) r ↔ ClosesOpen (p ++ ')' :: s) r := by
      simp only [closesOpen_iff, endsOpenList_append_close_iff]
    simp only [openParenthesesFrom, hiff, List.append_assoc, List.cons_append, ih]
    split
    · simp [hk]
      omega
    · rfl

/-! ## Another parameter -/

theorem opensBody_comma_iff {x : Text} (y z : Text) :
    OpensBody (x ++ ',' :: y) ↔ OpensBody (x ++ ',' :: z) := by
  have hopens : ∀ y, OpensBody (x ++ [','] ++ y) ↔ OpensBody (x ++ [',']) :=
    opensBody_append_of_exists ⟨',', by simp, by decide⟩
  rw [← List.singleton_append, ← List.append_assoc, hopens, ← List.singleton_append (l := z),
    ← List.append_assoc, hopens]

/-- The list that a parameter was added to ends in no comma. -/
theorem Dependency.IsNamed.not_endsOpenList_line {d : Dependency} (hd : d.IsNamed) {o : OpenConstructor}
    (ho : o.Fits) {j : Text} (hj : ∀ c ∈ j, isBlank c = true) (x : Text) :
    ¬ EndsOpenList (x ++ (d.line o ++ j)) := by
  obtain ⟨e, he, hword⟩ := hd.getLast?_parameter
  obtain ⟨p, hp⟩ := List.getLast?_eq_some_iff.1 he
  have hblank : ∀ c ∈ o.lineBreak ++ (o.closingIndent ++ j), isBlank c = true := by
    intro c hc
    simp only [List.mem_append] at hc
    rcases hc with hc | hc | hc
    · exact ho.lineBreak.isBlank c hc
    · exact isBlank_of_isIndent (o.isIndent_closingIndent c hc)
    · exact hj c hc
  have hcomma : e ≠ ',' := by
    rintro rfl
    exact absurd hword (by decide)
  have hnot := not_endsOpen_of_last (x := x ++ (o.indent ++ p))
    ⟨isBlank_of_isAsciiWord hword, hcomma⟩ (notMem_of_isBlank hblank (by decide))
  intro hlist
  refine hnot ?_
  simpa [Dependency.line, hp] using hlist.endsOpen

section
variable {s u : Text} {o : OpenConstructor} (h : firstOpen? s = some (u, o))
include h

/-- No parenthesis before the first open constructor is closed closes another. -/
theorem not_closesOpen_of_firstOpen? {x y r : Text} (hr : o.text = o.list ++ r)
    (hx : u ++ o.list = x ++ ')' :: y) : ¬ ClosesOpen x (y ++ r) := by
  obtain ⟨-, ho, hfirst⟩ := firstOpen?_eq_some h
  obtain ⟨-, -, hlist⟩ := (openConstructor?_parts ho).2.1.text_eq_list
  rw [closesOpen_iff_exists_suffix]
  rintro ⟨v, ⟨b, rfl⟩, -, hsome⟩
  rw [List.append_assoc] at hx
  rcases List.append_eq_append_iff.1 hx with ⟨c, rfl, hc⟩ | ⟨c, rfl, hc⟩
  · exact hlist (by simp [hc])
  · by_cases hne : c = []
    · subst hne
      exact hlist (by rw [← List.nil_append o.list, ← hc]; simp)
    · have htext : c ++ o.text = v ++ ')' :: (y ++ r) := by
        rw [hr, ← List.append_assoc, ← hc, List.append_assoc, List.cons_append]
      rw [← htext, hfirst b c rfl hne] at hsome
      cases hsome

theorem openParentheses_of_firstOpen? {r : Text} (hr : o.text = o.list ++ ')' :: r) :
    openParentheses s =
      byteLength (u ++ o.list) :: openParenthesesFrom (u ++ o.list ++ [')']) r := by
  obtain ⟨hs, ho, -⟩ := firstOpen?_eq_some h
  have hcloses : ClosesOpen (u ++ o.list) r :=
    ⟨u, o, (openConstructor?_eq_some_iff.1 ho).1, rfl, by rw [hr, List.append_assoc]⟩
  rw [openParentheses, hs, hr, ← List.append_assoc, openParenthesesFrom_append, List.nil_append,
    openParenthesesFrom, if_pos ⟨rfl, hcloses⟩]
  exact fun x y hx => not_closesOpen_of_firstOpen? h hr hx

/-- What follows the comma of a list is no matter to the parentheses before it. -/
theorem not_closesOpen_line {w r : Text} (hw : ')' ∉ w) (hr : o.text = o.list ++ ')' :: r) :
    ∀ x y, u ++ (o.head ++ (o.comma ++ w)) = x ++ ')' :: y → ¬ ClosesOpen x (y ++ ')' :: r) := by
  intro x y hx hclose
  obtain ⟨-, ho, -⟩ := firstOpen?_eq_some h
  have hfits := (openConstructor?_parts ho).2.1
  obtain ⟨i, hcomma, hi⟩ := hfits.comma
  have hw : ')' ∉ o.comma ++ w := by
    have := notMem_of_isBlank (fun c hc => isBlank_of_isIndent (hi c hc)) (c := ')') (by decide)
    simp [hcomma, this, hw]
  rw [← List.append_assoc] at hx
  rcases List.append_eq_append_iff.1 hx with ⟨z, -, hz⟩ | ⟨z, hz, hy⟩
  · exact hw (by simp [hz])
  cases z with
  | nil => exact hw (by rw [List.nil_append] at hy; simp [← hy])
  | cons c z =>
    rw [List.cons_append] at hy
    obtain ⟨rfl, rfl⟩ := List.cons.inj hy
    have hlist : u ++ o.list = x ++ ')' :: (z ++ (o.comma ++ (o.lineBreak ++
        o.closing.takeWhile isIndent))) := by
      rw [OpenConstructor.list, OpenConstructor.before]
      simpa using congrArg (· ++ (o.comma ++ (o.lineBreak ++ o.closing.takeWhile isIndent))) hz
    obtain ⟨hends, hbody⟩ := closesOpen_iff.1 hclose
    refine not_closesOpen_of_firstOpen? h hr hlist (closesOpen_iff.2 ⟨hends, ?_⟩)
    simp only [hcomma, List.append_assoc, List.cons_append] at hbody ⊢
    exact (opensBody_comma_iff _ _).1 hbody

theorem Dependency.IsNamed.openParentheses_append {d : Dependency} (hd : d.IsNamed) {r : Text}
    (hr : o.text = o.list ++ ')' :: r) :
    openParentheses (u ++ o.append d.parameter) =
      (openParenthesesFrom (u ++ o.list ++ [')']) r).map (· + byteLength (d.line o)) := by
  obtain ⟨-, ht, -⟩ := Dependency.append_eq hd h
  have hfits := (openConstructor?_parts (firstOpen?_eq_some h).2.1).2.1
  obtain ⟨j, hj⟩ : ∃ j, j = o.closing.takeWhile isIndent := ⟨_, rfl⟩
  have hafter : o.after = j ++ ')' :: r := by
    rw [← o.before_append_after, OpenConstructor.list, ← hj, List.append_assoc,
      List.append_cancel_left_eq] at hr
    exact hr
  have htext : u ++ o.append d.parameter =
      (u ++ (o.head ++ (o.comma ++ (o.lineBreak ++ (d.line o ++ j))))) ++ ')' :: r := by
    rw [ht, hafter]
    simp [OpenConstructor.before]
  have hindent : ∀ c ∈ j, isBlank c = true := fun c hc => by
    rw [hj] at hc
    exact isBlank_of_isIndent (List.mem_takeWhile_imp hc)
  have hclose : ')' ∉ o.lineBreak ++ (d.line o ++ j) := by
    have h₁ := notMem_of_isBlank hfits.lineBreak.isBlank (c := ')') (by decide)
    have h₂ := hd.notMem_line hfits (c := ')') (by decide)
    have h₃ := notMem_of_isBlank hindent (c := ')') (by decide)
    simp [h₁, h₂, h₃]
  have hends : ¬ EndsOpenList (u ++ (o.head ++ (o.comma ++ (o.lineBreak ++ (d.line o ++ j))))) := by
    simpa [OpenConstructor.before] using hd.not_endsOpenList_line hfits hindent (u ++ o.before)
  rw [openParentheses, htext, openParenthesesFrom_append, List.nil_append, openParenthesesFrom,
    if_neg fun h => hends (closesOpen_iff.1 h.2).1]
  · refine openParenthesesFrom_congr ?_
    simp only [OpenConstructor.list, OpenConstructor.before, byteLength_append, hj]
    omega
  · exact not_closesOpen_line h hclose hr

end

/-! ## One parameter after the other -/

def Dependency.appendTimes (d : Dependency) : Nat → Text → Option Text
  | 0, s => some s
  | n + 1, s => (d.appendParameter s).bind (d.appendTimes n)

theorem openParentheses_eq_nil {s : Text} (h : firstOpen? s = none) : openParentheses s = [] := by
  have hnot : ∀ x y, s = x ++ ')' :: y → ¬ ClosesOpen ([] ++ x) (y ++ []) := by
    intro x y hs hclose
    rw [List.append_nil, List.nil_append, closesOpen_iff_exists_suffix] at hclose
    obtain ⟨v, ⟨u, rfl⟩, -, hsome⟩ := hclose
    rw [firstOpen?_eq_none_iff.1 h _ ⟨u, by rw [hs, List.append_assoc]⟩] at hsome
    cases hsome
  have hnil := openParenthesesFrom_append hnot
  rwa [List.append_nil, openParenthesesFrom] at hnil

theorem Dependency.IsNamed.openParentheses_of_appendParameter {d : Dependency} (hd : d.IsNamed)
    {s t : Text} (h : d.appendParameter s = some t) :
    ∃ u o rest, firstOpen? s = some (u, o) ∧ s = u ++ o.before ++ o.after ∧
      t = u ++ o.before ++ (d.line o ++ o.after) ∧
      openParentheses s = byteLength (u ++ o.list) :: rest ∧
      openParentheses t = rest.map (· + (byteLength t - byteLength s)) := by
  rw [appendParameter_eq] at h
  obtain ⟨⟨u, o⟩, ho, rfl⟩ := Option.map_eq_some_iff.1 h
  obtain ⟨hs, ht, -⟩ := append_eq hd ho
  obtain ⟨g, hr, -⟩ := (openConstructor?_parts (firstOpen?_eq_some ho).2.1).2.1.text_eq_list
  refine ⟨u, o, _, ho, hs, ht, openParentheses_of_firstOpen? ho hr, ?_⟩
  have hbytes : byteLength (u ++ o.append d.parameter) - byteLength s = byteLength (d.line o) := by
    rw [ht, hs]
    simp only [byteLength_append]
    omega
  rw [hbytes]
  exact hd.openParentheses_append ho hr

theorem Dependency.appendParameter_eq_none_iff (d : Dependency) (s : Text) :
    d.appendParameter s = none ↔ openParentheses s = [] := by
  rw [appendParameter_eq, Option.map_eq_none_iff]
  refine ⟨openParentheses_eq_nil, fun h => ?_⟩
  rw [Option.eq_none_iff_forall_ne_some]
  rintro ⟨u, o⟩ ho
  obtain ⟨g, hr, -⟩ := (openConstructor?_parts (firstOpen?_eq_some ho).2.1).2.1.text_eq_list
  rw [openParentheses_of_firstOpen? ho hr] at h
  cases h

/-- What is left of the parentheses after some parameters. -/
theorem Dependency.IsNamed.length_openParentheses {d : Dependency} (hd : d.IsNamed) {n : Nat} {s t : Text}
    (h : d.appendTimes n s = some t) : (openParentheses t).length + n = (openParentheses s).length := by
  induction n generalizing s with
  | zero =>
    obtain rfl := Option.some.inj h
    rfl
  | succ n ih =>
    obtain ⟨r, hr, ht⟩ := Option.bind_eq_some_iff.1 h
    obtain ⟨u, o, rest, -, -, -, hs, hrest⟩ := hd.openParentheses_of_appendParameter hr
    rw [hs, List.length_cons, ← Nat.add_assoc, ih ht, hrest, List.length_map]

theorem Dependency.IsNamed.isSome_appendTimes_iff {d : Dependency} (hd : d.IsNamed) (n : Nat) (s : Text) :
    (d.appendTimes n s).isSome = true ↔ n ≤ (openParentheses s).length := by
  induction n generalizing s with
  | zero => simp [appendTimes]
  | succ n ih =>
    rw [appendTimes]
    cases hr : d.appendParameter s with
    | none => simp [(d.appendParameter_eq_none_iff s).1 hr]
    | some r =>
      obtain ⟨u, o, rest, -, -, -, hs, hrest⟩ := hd.openParentheses_of_appendParameter hr
      rw [Option.bind_some, ih, hs, hrest, List.length_cons, List.length_map, Nat.add_le_add_iff_right]

/-- A parameter that is added uses up the first parenthesis that closes an open constructor and moves the
others. So as many parameters can be added as there are such parentheses, and then no more. -/
theorem Dependency.IsNamed.appendParameter_uses_up {d : Dependency} (hd : d.IsNamed) (s : Text) :
    (∀ t, d.appendParameter s = some t → ∃ u o rest, firstOpen? s = some (u, o) ∧
      s = u ++ o.before ++ o.after ∧ t = u ++ o.before ++ (d.line o ++ o.after) ∧
      openParentheses s = byteLength (u ++ o.list) :: rest ∧
      openParentheses t = rest.map (· + (byteLength t - byteLength s)) ∧
      ((openParentheses s).length = 1 → d.appendParameter t = none)) ∧
    (∀ n, (d.appendTimes n s).isSome = true ↔ n ≤ (openParentheses s).length) ∧
    ∃ r, d.appendTimes (openParentheses s).length s = some r ∧ d.appendParameter r = none := by
  refine ⟨fun t ht => ?_, fun n => hd.isSome_appendTimes_iff n s, ?_⟩
  · obtain ⟨u, o, rest, ho, hs, ht, hfirst, hrest⟩ := hd.openParentheses_of_appendParameter ht
    refine ⟨u, o, rest, ho, hs, ht, hfirst, hrest, fun hone => ?_⟩
    rw [hfirst, List.length_cons, Nat.add_eq_right, List.length_eq_zero_iff] at hone
    rw [d.appendParameter_eq_none_iff, hrest, hone, List.map_nil]
  · obtain ⟨r, hr⟩ := Option.isSome_iff_exists.1
      ((hd.isSome_appendTimes_iff _ s).2 (Nat.le_refl (openParentheses s).length))
    refine ⟨r, hr, (d.appendParameter_eq_none_iff r).2 (List.eq_nil_of_length_eq_zero ?_)⟩
    have := hd.length_openParentheses hr
    omega

/-- The commented constructor takes a parameter, and then the one of the class does. -/
theorem Dependency.appendParameter_uses_up_commentedController :
    ({} : Dependency).IsNamed ∧ (openParentheses commentedController).length = 2 ∧
      (∀ n, (({} : Dependency).appendTimes n commentedController).isSome = true ↔ n ≤ 2) ∧
      ∃ t u, ∃ (o : OpenConstructor) (rest : List Nat),
        ({} : Dependency).appendParameter commentedController = some t ∧
        openParentheses commentedController = byteLength (u ++ o.list) :: rest ∧
        openParentheses t = rest.map (· + (byteLength t - byteLength commentedController)) := by
  have hd : ({} : Dependency).IsNamed := by decide
  have hlength : (openParentheses commentedController).length = 2 := by decide +kernel
  obtain ⟨hstep, hcount, -⟩ := Dependency.IsNamed.appendParameter_uses_up hd commentedController
  rw [hlength] at hcount
  obtain ⟨t, ht⟩ : ∃ t, ({} : Dependency).appendParameter commentedController = some t := by
    refine Option.ne_none_iff_exists'.1 fun hnone => ?_
    rw [(Dependency.appendParameter_eq_none_iff _ _).1 hnone] at hlength
    cases hlength
  obtain ⟨u, o, rest, -, -, -, hfirst, hrest, -⟩ := hstep t ht
  exact ⟨hd, hlength, hcount, t, u, o, rest, ht, hfirst, hrest⟩

end Wiring
