import Wiring.Proofs.Phrase
import Wiring.Source.ClassConstructor

/-!
# The parameter list and insertions

A text inserted into code, away from the name of any constructor and without braces and parentheses,
moves the parameter list of the class constructor, or goes into it, and changes nothing else about
it. Main statement: `parameterList?_insert`.
-/

namespace Wiring

def constructorName : Phrase :=
  ⟨.word "function".toList, [⟨true, .word "__construct".toList⟩, ⟨false, .word ['(']⟩]⟩

theorem afterConstructorName?_eq (s : Text) :
    afterConstructorName? s = constructorName.after? s := by
  simp only [afterConstructorName?, constructorName, Phrase.after?, afterLinks?, Link.after?,
    afterGap?, Token.after?, Option.bind_eq_bind, Option.bind_assoc, Option.bind_some, ite_true,
    Bool.false_eq_true, ite_false, Option.bind_fun_some]

theorem constructorName_endsIn : constructorName.EndsIn '(' where
  first := by simp [constructorName, Token.Excludes]
  links := ⟨[⟨true, .word "__construct".toList⟩], false, rfl, by simp [Token.Excludes]⟩
  notBlank := by decide

theorem head?_of_constructorName {s r : Text} (h : constructorName.after? s = some r) :
    s.head? = some 'f' := Phrase.head?_of_after? (u := "unction".toList) rfl h

theorem parameterListAt?_eq_none {p r : Text} (h : constructorName.after? r = none) :
    parameterListAt? p r = none := by
  simp [parameterListAt?, afterConstructorName?_eq, h]

theorem parameterListAt?_eq {p c list : Text} (h : constructorName.after? (c ++ list) = some list) :
    parameterListAt? p (c ++ list) =
      if isWordAt p.head? ∨ openBraces p ≠ 1 then none
      else (insideParentheses? 0 list).map fun inside => ⟨p.reverse ++ c, inside⟩ := by
  simp [parameterListAt?, afterConstructorName?_eq, h]

/-! ## Braces and parentheses -/

def IsFlat (w : Text) : Prop := '(' ∉ w ∧ ')' ∉ w ∧ '{' ∉ w ∧ '}' ∉ w

theorem openBraces_append (s t : Text) : openBraces (s ++ t) = openBraces s + openBraces t := by
  simp only [openBraces, List.count_append]; omega

theorem openBraces_reverse (s : Text) : openBraces s.reverse = openBraces s := by
  simp [openBraces]

theorem openBraces_of_flat {w : Text} (h : IsFlat w) : openBraces w = 0 := by
  simp [openBraces, List.count_eq_zero_of_not_mem h.2.2.1, List.count_eq_zero_of_not_mem h.2.2.2]

def insertAt (k : Nat) (w s : Text) : Text :=
  if k ≤ s.length then s.take k ++ w ++ s.drop k else s

theorem insideParentheses?_append {w : Text} (h₁ : '(' ∉ w) (h₂ : ')' ∉ w) (n : Nat) (s : Text) :
    insideParentheses? n (w ++ s) = (insideParentheses? n s).map (w ++ ·) := by
  induction w with
  | nil => simp
  | cons c w ih =>
    simp only [List.mem_cons, not_or] at h₁ h₂
    simp only [List.cons_append, insideParentheses?, Ne.symm h₁.1, Ne.symm h₂.1, if_false,
      ih h₁.2 h₂.2, Option.map_map, Function.comp_def]

def IsBalanced (w : Text) : Prop :=
  ∀ n s, insideParentheses? n (w ++ s) = (insideParentheses? n s).map (w ++ ·)

theorem IsFlat.isBalanced {w : Text} (h : IsFlat w) : IsBalanced w :=
  insideParentheses?_append h.1 h.2.1

/-- What stands in parentheses takes up a balanced insertion, or ends before it. -/
theorem insideParentheses?_insert {w : Text} (hw : IsBalanced w) (n : Nat) (s t : Text) :
    insideParentheses? n (s ++ (w ++ t)) =
      (insideParentheses? n (s ++ t)).map (insertAt s.length w) := by
  induction s generalizing n with
  | nil =>
    have h : insertAt 0 w = (w ++ ·) := by funext i; simp [insertAt]
    simp only [List.nil_append, hw n t, List.length_nil, h]
  | cons c s ih =>
    have hcons : (insertAt (s.length + 1) w ∘ (c :: ·)) = ((c :: ·) ∘ insertAt s.length w) := by
      funext i
      simp only [insertAt, Function.comp, List.length_cons, Nat.add_le_add_iff_right]
      split <;> simp
    simp only [List.cons_append, insideParentheses?, List.length_cons, ih]
    split
    · cases n with
      | zero => simp [insertAt]
      | succ n => simp only [Option.map_map, hcons]
    · simp only [Option.map_map, hcons]

theorem insideParentheses?_eq_append {n : Nat} {s i : Text} (h : insideParentheses? n s = some i) :
    ∃ t, s = i ++ ')' :: t := by
  induction s generalizing n i with
  | nil => cases n <;> cases h
  | cons c s ih =>
    simp only [insideParentheses?] at h
    split at h
    · cases n with
      | zero =>
        obtain rfl := Option.some.inj h
        exact ⟨s, by simp_all⟩
      | succ n =>
        obtain ⟨j, hj, rfl⟩ := Option.map_eq_some_iff.1 h
        obtain ⟨t, rfl⟩ := ih hj
        exact ⟨t, rfl⟩
    · obtain ⟨j, hj, rfl⟩ := Option.map_eq_some_iff.1 h
      obtain ⟨t, rfl⟩ := ih hj
      exact ⟨t, rfl⟩

/-! ## The parameter list -/

theorem parameterList?_eq_append {code : Text} {p : ParameterList} (h : parameterList? code = some p) :
    ∃ t, code = p.before ++ p.inside ++ ')' :: t := by
  obtain ⟨b, r, rfl, hr, -⟩ := leftmost_eq_some_iff.1 h
  cases hl : constructorName.after? r with
  | none => rw [parameterListAt?_eq_none hl] at hr; cases hr
  | some list =>
    obtain ⟨c, rfl, -⟩ := Phrase.after?_eq_append hl
    rw [parameterListAt?_eq hl] at hr
    split at hr
    · cases hr
    · obtain ⟨i, hi, rfl⟩ := Option.map_eq_some_iff.1 hr
      obtain ⟨t, rfl⟩ := insideParentheses?_eq_append hi
      exact ⟨t, by simp⟩

theorem getLast?_before_of_parameterList? {code : Text} {p : ParameterList}
    (h : parameterList? code = some p) : p.before.getLast? = some '(' := by
  obtain ⟨b, r, rfl, hr, -⟩ := leftmost_eq_some_iff.1 h
  cases hl : constructorName.after? r with
  | none => rw [parameterListAt?_eq_none hl] at hr; cases hr
  | some list =>
    obtain ⟨c, -, -, rfl, hlocal⟩ := constructorName_endsIn.after?_local hl
    have hname := hlocal list
    rw [← List.singleton_append, ← List.append_assoc] at hr hname
    rw [parameterListAt?_eq hname] at hr
    split at hr
    · cases hr
    · obtain ⟨i, -, rfl⟩ := Option.map_eq_some_iff.1 hr
      simp

def ParameterList.insert (k : Nat) (w : Text) (p : ParameterList) : ParameterList :=
  if k < p.before.length then ⟨insertAt k w p.before, p.inside⟩
  else ⟨p.before, insertAt (k - p.before.length) w p.inside⟩

theorem insertAt_length (s w t : Text) : insertAt s.length w (s ++ t) = s ++ w ++ t := by
  simp [insertAt]

theorem ParameterList.insert_before {s w t inside : Text} (ht : t ≠ []) :
    ParameterList.insert s.length w ⟨s ++ t, inside⟩ = ⟨s ++ w ++ t, inside⟩ := by
  have : 0 < t.length := List.length_pos_iff.2 ht
  simp [ParameterList.insert, insertAt_length, this]

theorem ParameterList.insert_inside {s t w inside : Text} :
    ParameterList.insert (s ++ t).length w ⟨s, inside⟩ = ⟨s, insertAt t.length w inside⟩ := by
  have h : ¬ (s ++ t).length < s.length := by simp
  rw [ParameterList.insert, if_neg h, List.length_append, Nat.add_sub_cancel_left]

theorem ParameterList.insert_outside {k : Nat} {w : Text} {p : ParameterList}
    (hk : ¬ (p.before.length ≤ k ∧ k ≤ p.before.length + p.inside.length)) :
    (p.insert k w).inside = p.inside := by
  simp only [ParameterList.insert]
  split
  · rfl
  · simp only [insertAt, ite_eq_right_iff]
    omega

/-- An insertion into the list cuts it in two. -/
theorem parameterList?_inside_insert {a b : Text} {p : ParameterList} (hp : parameterList? (a ++ b) = some p)
    (h₁ : p.before.length ≤ a.length) (h₂ : a.length ≤ p.before.length + p.inside.length) (w : Text) :
    ∃ y z, y <:+ a ∧ z <+: b ∧ p.inside = y ++ z ∧ (p.insert a.length w).inside = y ++ (w ++ z) := by
  obtain ⟨t, ht⟩ := parameterList?_eq_append hp
  rw [List.append_assoc] at ht
  obtain ⟨y, hy⟩ : p.before <+: a :=
    List.prefix_of_prefix_length_le ⟨_, ht.symm⟩ (List.prefix_append _ _) h₁
  have hk : a.length - p.before.length = y.length := by
    rw [← hy, List.length_append]; omega
  rw [← hy, List.append_assoc, List.append_cancel_left_eq] at ht
  obtain ⟨z, hz⟩ : y <+: p.inside :=
    List.prefix_of_prefix_length_le ⟨_, ht⟩ (List.prefix_append _ _) (by omega)
  rw [← hz, List.append_assoc, List.append_cancel_left_eq] at ht
  refine ⟨y, z, ⟨_, hy⟩, ⟨_, ht.symm⟩, hz.symm, ?_⟩
  rw [ParameterList.insert, if_neg (Nat.not_lt.2 h₁), hk, ← hz, insertAt_length, List.append_assoc]

theorem parameterList?_insert {a w b : Text} (seam : constructorName.Seam a w b) (hw : IsFlat w)
    (ha : isWordAt a.getLast? = false) (haw : isWordAt (a ++ w).getLast? = false) :
    parameterList? (a ++ (w ++ b)) = (parameterList? (a ++ b)).map (·.insert a.length w) := by
  refine leftmost_insert seam (fun p r h => parameterListAt?_eq_none h) ?_ ?_ ?_
  · intro p c y hp hy h h'
    simp only [List.append_assoc] at h h' ⊢
    rw [parameterListAt?_eq h, parameterListAt?_eq h', insideParentheses?_insert hw.isBalanced]
    split
    · rfl
    · rw [Option.map_map, Option.map_map]
      congr 1; funext i
      simp only [Function.comp, List.reverse_reverse, hp, ParameterList.insert_inside]
  · intro p x c z hp _ hc hb h h'
    rw [hb, ← List.append_assoc] at h
    rw [hb, ← List.append_assoc, ← List.append_assoc] at h'
    rw [hb, ← List.append_assoc x c z, ← List.append_assoc w c z, ← List.append_assoc x,
      ← List.append_assoc x, parameterListAt?_eq h, parameterListAt?_eq h']
    split
    · rfl
    · rw [Option.map_map]
      congr 1; funext i
      simp only [Function.comp, List.reverse_reverse, hp, ← List.append_assoc,
        ParameterList.insert_before hc]
  · intro p x hp
    cases h : constructorName.after? x with
    | none => rw [parameterListAt?_eq_none h, parameterListAt?_eq_none h]; rfl
    | some list =>
      obtain ⟨c, rfl, hc⟩ := Phrase.after?_eq_append h
      have hpc : p ++ c ≠ [] := by
        have := hc ⟨false, .word ['(']⟩ (by simp [constructorName]) _ rfl '(' (by simp)
        intro h0
        simp only [List.append_eq_nil_iff] at h0
        simp [h0.2] at this
      have hbraces : openBraces (p.reverse ++ (a ++ w).reverse) =
          openBraces (p.reverse ++ a.reverse) := by
        simp [openBraces_append, openBraces_reverse, openBraces_of_flat hw]
      rw [parameterListAt?_eq h, parameterListAt?_eq h, isWordAt_head?_insert ha haw, hbraces]
      split
      · rfl
      · rw [Option.map_map]
        congr 1; funext i
        simp only [Function.comp, List.reverse_append, List.reverse_reverse, List.append_assoc,
          ParameterList.insert_before hpc]

end Wiring
