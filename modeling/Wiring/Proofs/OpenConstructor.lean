import Wiring.Proofs.Phrase
import Wiring.Source.TrailingComma

/-!
# The layout of open constructors

A constructor is open for another parameter when the first closing parenthesis of its list stands on
a line of its own after a comma, and a brace comes next. Main statement:
`openConstructor?_isSome_iff_layout`.
-/

namespace Wiring

/-! ## The end of a list -/

def IsIndent (i : Text) : Prop := ∀ c ∈ i, isIndent c = true

def IsLineBreak (b : Text) : Prop := b = ['\n'] ∨ b = ['\r', '\n']

def EndsOpen (s : Text) : Prop :=
  ∃ h i b j, s = h ++ ',' :: (i ++ b ++ j) ∧ IsIndent i ∧ IsLineBreak b ∧ IsIndent j

def OpensBody (s : Text) : Prop := ∃ g r, s = g ++ '{' :: r ∧ ∀ c ∈ g, isBlank c = true

theorem isBlank_of_isIndent {c : Char} (h : isIndent c = true) : isBlank c = true := by
  simp only [isIndent, Bool.or_eq_true, beq_iff_eq] at h
  rcases h with rfl | rfl <;> decide

theorem IsLineBreak.isBlank {b : Text} (h : IsLineBreak b) : ∀ c ∈ b, isBlank c = true := by
  rcases h with rfl | rfl <;> exact List.all_iff_forall_prop.1 (by decide)

theorem lineBreak?_eq_some_iff {s b r : Text} :
    lineBreak? s = some (b, r) ↔ IsLineBreak b ∧ s = b ++ r := by
  constructor
  · intro h
    unfold lineBreak? at h
    split at h <;> cases h
    · exact ⟨.inr rfl, rfl⟩
    · exact ⟨.inl rfl, rfl⟩
  · rintro ⟨rfl | rfl, rfl⟩ <;> rfl

theorem takeWhile_append_stop {p : Char → Bool} {i r : Text} (hi : ∀ c ∈ i, p c = true)
    (hr : ∀ c ∈ r.head?, p c = false) : (i ++ r).takeWhile p = i ∧ (i ++ r).dropWhile p = r := by
  rw [List.takeWhile_append_of_pos hi, List.dropWhile_append_of_pos hi]
  cases r with
  | nil => simp
  | cons c r => simp [hr c rfl]

/-- The parts of an open list, when a line of it ends in a comma before the parenthesis. -/
structure OpenConstructor.Fits (o : OpenConstructor) : Prop where
  head : ')' ∉ o.head
  comma : ∃ i, o.comma = ',' :: i ∧ IsIndent i
  lineBreak : IsLineBreak o.lineBreak
  closing : ∃ j g, o.closing = j ++ ')' :: (g ++ ['{']) ∧ IsIndent j ∧ ∀ c ∈ g, isBlank c = true

def OpenConstructor.text (o : OpenConstructor) : Text :=
  o.head ++ (o.comma ++ (o.lineBreak ++ (o.closing ++ o.rest)))

theorem closing?_eq_some_iff {s c r : Text} :
    closing? s = some (c, r) ↔ s = c ++ r ∧ ∃ j g, c = j ++ ')' :: (g ++ ['{']) ∧ IsIndent j ∧
      ∀ x ∈ g, isBlank x = true := by
  simp only [closing?, Option.bind_eq_bind, Option.bind_eq_some_iff, Option.pure_def,
    Option.some.injEq, Prod.mk.injEq, after?_eq_some_iff]
  constructor
  · intro h
    obtain ⟨t, ht, r', hr', rfl, rfl⟩ := h
    have hs := List.takeWhile_append_dropWhile (p := isIndent) (l := s)
    have hg := List.takeWhile_append_dropWhile (p := isBlank) (l := t)
    rw [ht] at hs
    rw [hr'] at hg
    refine ⟨?_, s.takeWhile isIndent, t.takeWhile isBlank, by simp,
      fun _ => List.mem_takeWhile_imp, fun _ => List.mem_takeWhile_imp⟩
    calc s = s.takeWhile isIndent ++ ([')'] ++ t) := hs.symm
      _ = s.takeWhile isIndent ++ ([')'] ++ (t.takeWhile isBlank ++ (['{'] ++ r'))) := by rw [hg]
      _ = _ := by simp
  · intro h'
    obtain ⟨rfl, j, g, rfl, hj, hg⟩ := h'
    have h₁ := takeWhile_append_stop (r := ')' :: (g ++ '{' :: r)) hj (by simp; decide)
    have h₂ := takeWhile_append_stop (r := '{' :: r) hg (by simp; decide)
    refine ⟨g ++ '{' :: r, ?_, r, ?_, ?_, rfl⟩
    · simpa using h₁.2
    · simpa using h₂.2
    · simp [h₁.1, h₂.1]

theorem openEnd?_eq_some_iff {s : Text} {o : OpenConstructor} :
    openEnd? s = some o ↔ o.head = [] ∧ o.Fits ∧ s = o.text := by
  simp only [openEnd?, Option.bind_eq_bind, Option.bind_eq_some_iff, Option.pure_def,
    Option.some.injEq, after?_eq_some_iff, Prod.exists, lineBreak?_eq_some_iff,
    closing?_eq_some_iff]
  constructor
  · intro h'
    obtain ⟨s, rfl, b, s', ⟨hb, hs⟩, c, r, ⟨rfl, j, g, rfl, hj, hg⟩, rfl⟩ := h'
    refine ⟨rfl, ⟨by simp, ⟨_, rfl, fun _ => List.mem_takeWhile_imp⟩, hb, j, g, rfl, hj, hg⟩, ?_⟩
    rw [OpenConstructor.text]
    simp only [List.nil_append, List.cons_append, ← hs, List.takeWhile_append_dropWhile]
  · intro h'
    obtain ⟨hh, ⟨-, ⟨i, hi, hi'⟩, hb, j, g, hc, hj, hg⟩, rfl⟩ := h'
    obtain ⟨head, comma, b, c, r⟩ := o
    subst hh hi hc
    have h := takeWhile_append_stop (r := b ++ (j ++ ')' :: (g ++ ['{']) ++ r)) hi' (by
      rcases hb with rfl | rfl <;> simp <;> decide)
    refine ⟨_, rfl, b, _, ⟨hb, h.2⟩, _, r, ⟨rfl, j, g, rfl, hj, hg⟩, ?_⟩
    show OpenConstructor.mk [] (',' :: List.takeWhile isIndent (i ++ _)) b _ r = _
    rw [h.1]

/-! ## The first closing parenthesis -/

theorem append_cons_inj {a : Char} {x x' z z' : Text} (hx : a ∉ x) (hx' : a ∉ x')
    (h : x ++ a :: z = x' ++ a :: z') : x = x' ∧ z = z' := by
  rcases List.append_eq_append_iff.1 h with ⟨v, rfl, hv⟩ | ⟨v, rfl, hv⟩
  · cases v with
    | nil => exact ⟨by simp, (List.cons.inj hv).2⟩
    | cons c v => exact absurd (by simp [(List.cons.inj hv).1]) hx'
  · cases v with
    | nil => exact ⟨by simp, (List.cons.inj hv).2.symm⟩
    | cons c v => exact absurd (by simp [(List.cons.inj hv).1]) hx

theorem isIndent_replicate (n : Nat) : IsIndent (List.replicate n ' ') := fun c hc => by
  rw [(List.mem_replicate.1 hc).2]
  rfl

theorem isBlank_of_mem_lineStart {b j : Text} (hb : IsLineBreak b) (hj : IsIndent j) :
    ∀ c ∈ b ++ j, isBlank c = true := by
  intro c hc
  rcases List.mem_append.1 hc with hc | hc
  · exact hb.isBlank c hc
  · exact isBlank_of_isIndent (hj c hc)

theorem isBlank_of_mem_lineEnd {i b j : Text} (hi : IsIndent i) (hb : IsLineBreak b)
    (hj : IsIndent j) : ∀ c ∈ i ++ b ++ j, isBlank c = true := by
  intro c hc
  rw [List.append_assoc] at hc
  rcases List.mem_append.1 hc with hc | hc
  · exact isBlank_of_isIndent (hi c hc)
  · exact isBlank_of_mem_lineStart hb hj c hc

theorem OpenConstructor.Fits.text_eq {o : OpenConstructor} (h : o.Fits) :
    ∃ e g, o.text = (o.head ++ ',' :: e) ++ ')' :: (g ++ '{' :: o.rest) ∧
      ')' ∉ o.head ++ ',' :: e ∧ (∀ c ∈ e, isBlank c = true) ∧ EndsOpen (o.head ++ ',' :: e) ∧
      OpensBody (g ++ '{' :: o.rest) := by
  obtain ⟨i, hc, hi⟩ := h.comma
  obtain ⟨j, g, hcl, hj, hg⟩ := h.closing
  have he := isBlank_of_mem_lineEnd hi h.lineBreak hj
  have hp : ')' ∉ i ++ o.lineBreak ++ j := fun hmem => by
    have := he _ hmem
    exact absurd this (by decide)
  refine ⟨i ++ o.lineBreak ++ j, g, ?_, ?_, he, ⟨_, i, _, j, rfl, hi, h.lineBreak, hj⟩,
    ⟨g, _, rfl, hg⟩⟩
  · simp [OpenConstructor.text, hc, hcl]
  · simpa [h.head] using hp

/-- The list ends at its last comma only. -/
theorem OpenConstructor.Fits.openEnd?_eq_none {c : Char} {head comma b closing rest : Text}
    (hf : OpenConstructor.Fits ⟨c :: head, comma, b, closing, rest⟩) :
    openEnd? (OpenConstructor.text ⟨c :: head, comma, b, closing, rest⟩) = none := by
  apply Option.eq_none_iff_forall_not_mem.2
  intro o ho
  obtain ⟨hh, hfo, htext⟩ := openEnd?_eq_some_iff.1 ho
  obtain ⟨e, g, h₁, h₂, -⟩ := hf.text_eq
  obtain ⟨e', g', h₁', h₂', he', -⟩ := hfo.text_eq
  rw [h₁, h₁'] at htext
  obtain ⟨h, -⟩ := append_cons_inj h₂ h₂' htext
  rw [hh] at h
  -- the comma of the list would be a blank after the comma of the earlier end
  have hmem : ',' ∈ e' := by
    have := (List.cons.inj h).2
    rw [← this]; simp
  exact absurd (he' _ hmem) (by decide)

theorem openList?_eq_some_iff {s : Text} {o : OpenConstructor} :
    openList? s = some o ↔ o.Fits ∧ s = o.text := by
  constructor
  · intro h
    induction s generalizing o with
    | nil => cases h
    | cons c s ih =>
      rw [openList?] at h
      split at h
      · rename_i o' ho
        obtain rfl := Option.some.inj h
        exact (openEnd?_eq_some_iff.1 ho).2
      · obtain ⟨hc, h⟩ := Option.ite_none_left_eq_some.1 h
        obtain ⟨o', ho, rfl⟩ := Option.map_eq_some_iff.1 h
        obtain ⟨hf, rfl⟩ := ih ho
        exact ⟨⟨by simp [hf.head, Ne.symm hc], hf.comma, hf.lineBreak, hf.closing⟩, rfl⟩
  · intro h'
    obtain ⟨hf, rfl⟩ := h'
    obtain ⟨head, comma, b, closing, rest⟩ := o
    induction head with
    | nil =>
      have h := openEnd?_eq_some_iff.2 ⟨rfl, hf, rfl⟩
      obtain ⟨i, hc, -⟩ := hf.comma
      obtain rfl : comma = ',' :: i := hc
      simp only [OpenConstructor.text, List.nil_append, List.cons_append] at h ⊢
      rw [openList?, h]
    | cons c head ih =>
      have hf' : OpenConstructor.Fits ⟨head, comma, b, closing, rest⟩ :=
        ⟨fun h => hf.head (by simp [h]), hf.comma, hf.lineBreak, hf.closing⟩
      have hc : c ≠ ')' := fun h => hf.head (by simp [h])
      have hnone := hf.openEnd?_eq_none
      have := ih hf'
      simp only [OpenConstructor.text, List.cons_append] at this hnone ⊢
      rw [openList?, hnone]
      simp [hc, this]

/-- Whether a list is open is decided before and after the first parenthesis that closes. -/
theorem openList?_isSome_iff {pre post : Text} (h : ')' ∉ pre) :
    (openList? (pre ++ ')' :: post)).isSome = true ↔ EndsOpen pre ∧ OpensBody post := by
  constructor
  · intro hs
    obtain ⟨o, ho⟩ := Option.isSome_iff_exists.1 hs
    obtain ⟨hf, ht⟩ := openList?_eq_some_iff.1 ho
    obtain ⟨e, g, h₁, h₂, -, h₃, h₄⟩ := hf.text_eq
    obtain ⟨rfl, rfl⟩ := append_cons_inj h h₂ (ht.trans h₁)
    exact ⟨h₃, h₄⟩
  · intro h'
    obtain ⟨⟨head, i, b, j, rfl, hi, hb, hj⟩, g, r, rfl, hg⟩ := h'
    have hf : OpenConstructor.Fits ⟨head, ',' :: i, b, j ++ ')' :: (g ++ ['{']), r⟩ :=
      ⟨fun hmem => h (by simp [hmem]), ⟨i, rfl, hi⟩, hb, j, g, rfl, hj, hg⟩
    rw [openList?_eq_some_iff.2 ⟨hf, by simp [OpenConstructor.text]⟩]
    rfl

theorem openList?_eq_none {s : Text} (h : ')' ∉ s) : openList? s = none := by
  apply Option.eq_none_iff_forall_not_mem.2
  intro o ho
  obtain ⟨hf, rfl⟩ := openList?_eq_some_iff.1 ho
  obtain ⟨e, g, h₁, -⟩ := hf.text_eq
  exact h (by simp [h₁])

/-! ## Open ends of joined texts -/

theorem EndsOpen.append {y : Text} (h : EndsOpen y) (x : Text) : EndsOpen (x ++ y) := by
  obtain ⟨h, i, b, j, rfl, hi, hb, hj⟩ := h
  exact ⟨x ++ h, i, b, j, by simp, hi, hb, hj⟩

/-- An open end does not reach back over a character that is neither a comma nor blank. -/
theorem EndsOpen.of_append {x y : Text} (h : EndsOpen (x ++ y))
    (hy : ∃ c ∈ y, isBlank c = false ∧ c ≠ ',') : EndsOpen y := by
  obtain ⟨h, i, b, j, hxy, hi, hb, hj⟩ := h
  rcases List.append_eq_append_iff.1 hxy with ⟨v, -, hv⟩ | ⟨v, rfl, hv⟩
  · exact ⟨v, i, b, j, hv, hi, hb, hj⟩
  · obtain ⟨c, hc, hcb, hcc⟩ := hy
    have hmem : c ∈ ',' :: (i ++ b ++ j) := by rw [hv]; simp [hc]
    rcases List.mem_cons.1 hmem with rfl | hmem
    · exact absurd rfl hcc
    · simp [isBlank_of_mem_lineEnd hi hb hj c hmem] at hcb

theorem not_endsOpen_of_notMem {s : Text} (h : ',' ∉ s) : ¬ EndsOpen s := by
  intro h'
  obtain ⟨x, i, b, j, rfl, -⟩ := h'
  simp at h

theorem not_endsOpen_of_last {x z : Text} {c : Char} (hc : isBlank c = false ∧ c ≠ ',')
    (hz : ',' ∉ z) : ¬ EndsOpen (x ++ c :: z) := fun h =>
  not_endsOpen_of_notMem (by simp [hz, Ne.symm hc.2]) (h.of_append ⟨c, by simp, hc⟩)

theorem opensBody_iff {s : Text} : OpensBody s ↔ (s.dropWhile isBlank).head? = some '{' := by
  constructor
  · intro h'
    obtain ⟨g, r, rfl, hg⟩ := h'
    rw [List.dropWhile_append_of_pos hg]
    rfl
  · intro h
    obtain ⟨r, hr⟩ := List.head?_eq_some_iff.1 h
    exact ⟨s.takeWhile isBlank, r, by rw [← hr, List.takeWhile_append_dropWhile],
      fun _ => List.mem_takeWhile_imp⟩

theorem opensBody_append_of_exists {x : Text} (hx : ∃ c ∈ x, isBlank c = false) (y : Text) :
    OpensBody (x ++ y) ↔ OpensBody x := by
  have hne : x.dropWhile isBlank ≠ [] := fun h => by
    obtain ⟨c, hc, hcb⟩ := hx
    simp [List.dropWhile_eq_nil_iff.1 h c hc] at hcb
  rw [opensBody_iff, opensBody_iff, dropWhile_append_of_exists hx, List.head?_append,
    List.head?_eq_some_head hne, Option.some_or]

theorem opensBody_append_of_blank {x : Text} (hx : ∀ c ∈ x, isBlank c = true) (y : Text) :
    OpensBody (x ++ y) ↔ OpensBody y := by
  rw [opensBody_iff, opensBody_iff, List.dropWhile_append_of_pos hx]

/-! ## The first open constructor -/

def publicConstructor : Phrase :=
  ⟨.word "public".toList,
    [⟨true, .word "function".toList⟩, ⟨true, .word "__construct".toList⟩, ⟨false, .word ['(']⟩]⟩

theorem afterPublicConstructor?_eq (s : Text) :
    afterPublicConstructor? s = publicConstructor.after? s := by
  simp only [afterPublicConstructor?, publicConstructor, Phrase.after?, afterLinks?, Link.after?,
    afterGap?, Token.after?, Option.bind_eq_bind, Option.bind_assoc, Option.bind_some, ite_true,
    Bool.false_eq_true, ite_false, Option.bind_fun_some]

theorem publicConstructor_endsIn : publicConstructor.EndsIn '(' where
  first := by simp [publicConstructor, Token.Excludes]
  links := ⟨[⟨true, .word "function".toList⟩, ⟨true, .word "__construct".toList⟩], false, rfl, by
    simp [Token.Excludes]⟩
  notBlank := by decide

theorem publicConstructor_excludes {e : Char} (h : e = ')' ∨ isBlank e = true) :
    publicConstructor.Excludes e := by
  have hall : ∀ w ∈ ["public".toList, "function".toList, "__construct".toList, ['(']],
      (w.all fun c => !isBlank c && c != ')') = true := by decide
  have hw : ∀ w ∈ ["public".toList, "function".toList, "__construct".toList, ['(']], e ∉ w := by
    intro w hw hmem
    have := List.all_eq_true.1 (hall w hw) e hmem
    rcases h with rfl | h
    · simp at this
    · simp [h] at this
  simpa only [publicConstructor, Phrase.Excludes, Token.Excludes, List.forall_mem_cons,
    List.not_mem_nil, false_imp_iff, implies_true, and_true] using hw

theorem openConstructor?_isSome_iff {s : Text} : (openConstructor? s).isSome = true ↔
    ∃ list, publicConstructor.after? s = some list ∧ (openList? list).isSome = true := by
  simp only [openConstructor?, afterPublicConstructor?_eq, Option.bind_eq_bind, Option.pure_def,
    Option.isSome_iff_exists, Option.bind_eq_some_iff, Option.some.injEq]
  constructor
  · intro h'
    obtain ⟨o, list, hlist, o', ho', -⟩ := h'
    exact ⟨list, hlist, o', ho'⟩
  · intro h'
    obtain ⟨list, hlist, o', ho'⟩ := h'
    exact ⟨_, list, hlist, o', ho', rfl⟩

theorem openConstructor?_parts {s : Text} {o : OpenConstructor} (h : openConstructor? s = some o) :
    s = o.text ∧ o.Fits ∧ ∃ n l, o.head = n ++ '(' :: l ∧ '(' ∉ n ∧
      ∀ r, publicConstructor.after? (n ++ '(' :: r) = some r := by
  simp only [openConstructor?, afterPublicConstructor?_eq, Option.bind_eq_bind, Option.pure_def,
    Option.bind_eq_some_iff, Option.some.injEq] at h
  obtain ⟨list, hlist, o', ho', rfl⟩ := h
  obtain ⟨n, hn, hn', rfl, hlocal⟩ := publicConstructor_endsIn.after?_local hlist
  obtain ⟨hf, rfl⟩ := openList?_eq_some_iff.1 ho'
  have htake : (n ++ '(' :: o'.text).take ((n ++ '(' :: o'.text).length - o'.text.length) =
      n ++ ['('] := by
    rw [show n ++ '(' :: o'.text = (n ++ ['(']) ++ o'.text by simp, List.length_append,
      Nat.add_sub_cancel, List.take_left']
    rfl
  have hp := hn' ')' (by decide) (publicConstructor_excludes (.inl rfl))
  rw [htake]
  refine ⟨by simp [OpenConstructor.text], ⟨by simp [hp, hf.head], hf.comma, hf.lineBreak, hf.closing⟩,
    n, o'.head, by simp, hn, hlocal⟩

theorem openConstructor?_isSome_iff_layout {s : Text} : (openConstructor? s).isSome = true ↔
    ∃ n pre post, s = n ++ '(' :: pre ++ ')' :: post ∧ ')' ∉ n ++ '(' :: pre ∧
      (∀ r, publicConstructor.after? (n ++ '(' :: r) = some r) ∧ EndsOpen pre ∧ OpensBody post := by
  rw [openConstructor?_isSome_iff]
  constructor
  · intro h'
    obtain ⟨list, hlist, ho⟩ := h'
    obtain ⟨n, -, hn, rfl, hlocal⟩ := publicConstructor_endsIn.after?_local hlist
    have hp := hn ')' (by decide) (publicConstructor_excludes (.inl rfl))
    have hmem : ')' ∈ list := by
      by_contra h
      simp [openList?_eq_none h] at ho
    obtain ⟨pre, post, rfl, hpre⟩ := List.eq_append_cons_of_mem hmem
    obtain ⟨h₁, h₂⟩ := (openList?_isSome_iff hpre).1 ho
    exact ⟨n, pre, post, by simp, by simp [hp, hpre], hlocal, h₁, h₂⟩
  · intro h'
    obtain ⟨n, pre, post, rfl, hp, hlocal, h₁, h₂⟩ := h'
    simp only [List.mem_append, List.mem_cons, not_or] at hp
    refine ⟨pre ++ ')' :: post, by simpa using hlocal (pre ++ ')' :: post), ?_⟩
    exact (openList?_isSome_iff hp.2.2).2 ⟨h₁, h₂⟩

def firstOpen? (s : Text) : Option (Text × OpenConstructor) :=
  leftmost (fun before rest => (openConstructor? rest).map fun o => (before.reverse, o)) s

theorem firstOpen?_eq_some {s u : Text} {o : OpenConstructor} (h : firstOpen? s = some (u, o)) :
    s = u ++ o.text ∧ openConstructor? o.text = some o ∧
      ∀ a b, u = a ++ b → b ≠ [] → openConstructor? (b ++ o.text) = none := by
  obtain ⟨r, rfl, ho, hfirst⟩ := leftmost_place_eq_some_iff.1 h
  obtain ⟨rfl, -⟩ := openConstructor?_parts ho
  exact ⟨rfl, ho, hfirst⟩

theorem firstOpen?_eq_none_iff {s : Text} :
    firstOpen? s = none ↔ ∀ y, y <:+ s → openConstructor? y = none := by
  rw [firstOpen?, leftmost_eq_none_iff]
  simp only [Option.map_eq_none_iff]
  exact ⟨fun h y ⟨x, hx⟩ => h x y hx.symm, fun h a b hs => h b ⟨a, hs.symm⟩⟩

theorem publicConstructor_after?_iff {s list : Text} : publicConstructor.after? s = some list ↔
    ∃ g₁ g₂ g₃, s = "public".toList ++ (g₁ ++ ("function".toList ++ (g₂ ++
        ("__construct".toList ++ (g₃ ++ '(' :: list))))) ∧
      (∀ c ∈ g₁ ++ g₂ ++ g₃, isBlank c = true) ∧ g₁ ≠ [] ∧ g₂ ≠ [] := by
  simp only [publicConstructor, Phrase.after?, afterLinks?, Link.after?, Token.after?,
    Option.bind_eq_some_iff, after?_eq_some_iff, afterGap?_eq_some_iff, Option.some.injEq]
  constructor
  · rintro ⟨_, rfl, _, ⟨_, ⟨g₁, rfl, h₁, hn₁, -⟩, rfl⟩, _, ⟨_, ⟨g₂, rfl, h₂, hn₂, -⟩, rfl⟩, _,
      ⟨_, ⟨g₃, rfl, h₃, -⟩, rfl⟩, rfl⟩
    refine ⟨g₁, g₂, g₃, rfl, fun c hc => ?_, hn₁ trivial, hn₂ trivial⟩
    simp only [List.mem_append] at hc
    rcases hc with (hc | hc) | hc
    · exact h₁ c hc
    · exact h₂ c hc
    · exact h₃ c hc
  · intro h'
    obtain ⟨g₁, g₂, g₃, rfl, hg, hn₁, hn₂⟩ := h'
    refine ⟨_, rfl, _, ⟨_, ⟨g₁, rfl, fun c hc => hg c (by simp [hc]), fun _ => hn₁,
      isBlank_head?_append (d := 'f') rfl (by decide) _⟩, rfl⟩, _, ⟨_, ⟨g₂, rfl,
      fun c hc => hg c (by simp [hc]), fun _ => hn₂,
      isBlank_head?_append (d := '_') rfl (by decide) _⟩, rfl⟩, _, ⟨_, ⟨g₃, rfl,
      fun c hc => hg c (by simp [hc]), by simp,
      isBlank_head?_append (w := ['(']) (d := '(') rfl (by decide) _⟩, rfl⟩, rfl⟩

def StartsOpen (s : Text) : Prop :=
  ∃ g₁ g₂ g₃ pre post, s = "public".toList ++ (g₁ ++ ("function".toList ++ (g₂ ++
      ("__construct".toList ++ (g₃ ++ '(' :: (pre ++ ')' :: post)))))) ∧
    (∀ c ∈ g₁ ++ g₂ ++ g₃, isBlank c = true) ∧ g₁ ≠ [] ∧ g₂ ≠ [] ∧
    ')' ∉ pre ∧ EndsOpen pre ∧ OpensBody post

theorem startsOpen_iff {s : Text} : StartsOpen s ↔ (openConstructor? s).isSome = true := by
  rw [openConstructor?_isSome_iff]
  constructor
  · intro h'
    obtain ⟨g₁, g₂, g₃, pre, post, rfl, hg, hn₁, hn₂, hpre, ho⟩ := h'
    exact ⟨_, publicConstructor_after?_iff.2 ⟨g₁, g₂, g₃, rfl, hg, hn₁, hn₂⟩,
      (openList?_isSome_iff hpre).2 ho⟩
  · intro h'
    obtain ⟨list, hlist, ho⟩ := h'
    obtain ⟨g₁, g₂, g₃, rfl, hg, hn₁, hn₂⟩ := publicConstructor_after?_iff.1 hlist
    have hmem : ')' ∈ list := by
      by_contra h
      simp [openList?_eq_none h] at ho
    obtain ⟨pre, post, rfl, hpre⟩ := List.eq_append_cons_of_mem hmem
    exact ⟨g₁, g₂, g₃, pre, post, rfl, hg, hn₁, hn₂, hpre, (openList?_isSome_iff hpre).1 ho⟩

theorem firstOpen?_isSome_iff {s : Text} : (firstOpen? s).isSome = true ↔
    ∃ y list, y <:+ s ∧ publicConstructor.after? y = some list ∧ (openList? list).isSome = true := by
  rw [← not_iff_not, Option.not_isSome_iff_eq_none, firstOpen?_eq_none_iff]
  simp only [not_exists, not_and]
  refine forall_congr' fun y => ⟨fun h list hy hl ho => ?_, fun h hy => ?_⟩
  · have := openConstructor?_isSome_iff.2 ⟨list, hl, ho⟩
    simp [h hy] at this
  · by_contra hne
    obtain ⟨list, hl, ho⟩ := openConstructor?_isSome_iff.1 (Option.isSome_iff_ne_none.2 hne)
    exact h list hy hl ho

/-- Whether a constructor of the open layout stands in a source: its name, a list that ends open, and a
brace after the first parenthesis that closes. -/
def HasOpenConstructor (s : Text) : Prop :=
  ∃ a g₁ g₂ g₃ pre post, s = a ++ ("public".toList ++ (g₁ ++ ("function".toList ++ (g₂ ++
      ("__construct".toList ++ (g₃ ++ '(' :: (pre ++ ')' :: post))))))) ∧
    (∀ c ∈ g₁ ++ g₂ ++ g₃, isBlank c = true) ∧ g₁ ≠ [] ∧ g₂ ≠ [] ∧
    ')' ∉ pre ∧ EndsOpen pre ∧ OpensBody post

theorem hasOpenConstructor_iff {s : Text} :
    HasOpenConstructor s ↔ ∃ u r, s = u ++ r ∧ StartsOpen r := by
  constructor
  · intro h'
    obtain ⟨u, g₁, g₂, g₃, pre, post, rfl, h⟩ := h'
    exact ⟨u, _, rfl, g₁, g₂, g₃, pre, post, rfl, h⟩
  · intro h'
    obtain ⟨u, r, rfl, g₁, g₂, g₃, pre, post, rfl, h⟩ := h'
    exact ⟨u, g₁, g₂, g₃, pre, post, rfl, h⟩

theorem firstOpen?_isSome_iff_layout {s : Text} :
    (firstOpen? s).isSome = true ↔ HasOpenConstructor s := by
  rw [firstOpen?_isSome_iff, hasOpenConstructor_iff]
  simp only [startsOpen_iff, openConstructor?_isSome_iff]
  constructor
  · rintro ⟨r, list, ⟨u, rfl⟩, hr, ho⟩
    exact ⟨u, r, rfl, list, hr, ho⟩
  · rintro ⟨u, r, rfl, list, hr, ho⟩
    exact ⟨r, list, List.suffix_append _ _, hr, ho⟩

end Wiring
