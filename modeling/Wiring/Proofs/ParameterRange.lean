import Mathlib.Order.Bounds.Basic
import Wiring.Proofs.Blanking
import Wiring.Proofs.Insertion
import Wiring.Proofs.Utf8

/-!
# The range of the parameters

The parameters of a class constructor stand behind the first name of one that is a word of its own, one
brace deep, and closed again, and they end where the parentheses that close first outnumber those that
open. Main statement: `parameterSpan?_exact`, on the bytes of the source and its code.
-/

namespace Wiring

/-! ## ASCII characters among bytes -/

theorem utf8_ascii {c : Char} (hc : c.toNat < 128) : utf8 [c] = [c.toUInt8] := by
  have hsize : c.utf8Size = 1 := by
    rw [Char.utf8Size_eq_one_iff, UInt32.le_iff_toNat_le]
    exact Nat.le_of_lt_succ hc
  rw [utf8_singleton, String.utf8EncodeChar_eq_singleton hsize]
  rfl

theorem notMem_utf8_of_ne {c d : Char} (hc : c.toNat < 128) (hd : d ≠ c) : c.toUInt8 ∉ utf8 [d] := by
  have htoNat : c.toUInt8.toNat = c.toNat := by
    rw [Char.toUInt8, UInt32.toNat_toUInt8]
    exact Nat.mod_eq_of_lt (Nat.lt_trans hc (by decide))
  intro hmem
  rw [utf8_singleton] at hmem
  have heq := toNat_eq_of_mem_utf8EncodeChar hmem (by rwa [htoNat])
  exact hd (Char.toNat_inj.1 (heq.trans htoNat))

theorem count_utf8_singleton {c : Char} (hc : c.toNat < 128) (d : Char) :
    (utf8 [d]).count c.toUInt8 = [d].count c := by
  by_cases hd : d = c
  · subst hd
    rw [utf8_ascii hc, List.count_singleton_self, List.count_singleton_self]
  · rw [List.count_eq_zero_of_not_mem (notMem_utf8_of_ne hc hd),
      List.count_eq_zero_of_not_mem (by simpa using Ne.symm hd)]

theorem count_utf8 {c : Char} (hc : c.toNat < 128) (s : Text) :
    (utf8 s).count c.toUInt8 = s.count c := by
  induction s with
  | nil => rfl
  | cons d s ih =>
    rw [← List.singleton_append, utf8_append, List.count_append, List.count_append, ih,
      count_utf8_singleton hc]

/-- The ASCII characters of the first bytes of a text are those of its first characters. -/
theorem exists_prefix_count_eq {p : Bytes} {s : Text} (h : p <+: utf8 s) :
    ∃ w, w <+: s ∧ ∀ c : Char, c.toNat < 128 → p.count c.toUInt8 = w.count c := by
  induction s generalizing p with
  | nil => exact ⟨[], List.nil_prefix, fun c _ => by rw [List.prefix_nil.1 h]; rfl⟩
  | cons d s ih =>
    obtain ⟨r, hr⟩ := h
    rw [← List.singleton_append, utf8_append] at hr
    rcases List.append_eq_append_iff.1 hr with ⟨q, hq, -⟩ | ⟨q, rfl, hq⟩
    · by_cases hp : p = utf8 [d]
      · refine ⟨[d], List.cons_prefix_cons.2 ⟨rfl, List.nil_prefix⟩, fun c hc => ?_⟩
        rw [hp, count_utf8_singleton hc]
      · -- a character of which only a part is among the first bytes is no ASCII character
        refine ⟨[], List.nil_prefix, fun c hc => List.count_eq_zero_of_not_mem fun hmem => ?_⟩
        by_cases hd : d = c
        · subst hd
          rw [utf8_ascii hc] at hq hp
          rcases List.append_eq_singleton_iff.1 hq.symm with ⟨rfl, -⟩ | ⟨rfl, -⟩
          · cases hmem
          · exact hp rfl
        · exact notMem_utf8_of_ne hc hd (hq ▸ List.mem_append_left q hmem)
    · obtain ⟨w, hw, hcount⟩ := ih ⟨r, hq.symm⟩
      refine ⟨d :: w, List.cons_prefix_cons.2 ⟨rfl, hw⟩, fun c hc => ?_⟩
      rw [List.count_append, hcount c hc, count_utf8_singleton hc, ← List.count_append,
        List.singleton_append]

/-! ## The closing parenthesis -/

theorem count_cons_eq_add (c d : Char) (w : Text) :
    List.count d (c :: w) = [c].count d + w.count d := by
  rw [← List.count_append, List.singleton_append]

/-- One character further in, the depth is `m`. -/
theorem insideParentheses?_cons {n m : Nat} {c : Char} (h : [c].count ')' + m = n + [c].count '(')
    (s : Text) : insideParentheses? n (c :: s) = (insideParentheses? m s).map (c :: ·) := by
  by_cases hclose : c = ')'
  · subst hclose
    obtain rfl : n = m + 1 := by simpa [Nat.add_comm] using h.symm
    rfl
  · simp only [insideParentheses?, if_neg hclose]
    by_cases hopen : c = '('
    · subst hopen
      obtain rfl : m = n + 1 := by simpa using h
      rfl
    · obtain rfl : m = n := by simpa [hclose, hopen] using h
      rw [if_neg hopen]

/-- A character closes the list or leads one character further in. -/
theorem closes_or_exists_depth (n : Nat) (c : Char) :
    (c = ')' ∧ n = 0) ∨ ∃ m, [c].count ')' + m = n + [c].count '(' := by
  by_cases hclose : c = ')'
  · subst hclose
    cases n with
    | zero => exact .inl ⟨rfl, rfl⟩
    | succ n => exact .inr ⟨n, by simp [Nat.add_comm]⟩
  · exact .inr ⟨n + [c].count '(', by simp [hclose]⟩

theorem insideParentheses?_eq_none_iff {n : Nat} {s : Text} :
    insideParentheses? n s = none ↔ ∀ w, w <+: s → w.count ')' ≤ n + w.count '(' := by
  induction s generalizing n with
  | nil => simp [insideParentheses?]
  | cons c s ih =>
    simp only [List.prefix_cons_iff, forall_eq_or_imp, List.count_nil, Nat.zero_le, true_and,
      forall_exists_index, and_imp]
    rcases closes_or_exists_depth n c with ⟨rfl, rfl⟩ | ⟨m, hm⟩
    · refine iff_of_false (by simp [insideParentheses?]) fun h => ?_
      exact absurd (h _ [] rfl List.nil_prefix) (by simp)
    · rw [insideParentheses?_cons hm, Option.map_eq_none_iff, ih]
      refine ⟨?_, fun h w hw => ?_⟩
      · rintro h _ w rfl hw
        have := h w hw
        rw [count_cons_eq_add c ')', count_cons_eq_add c '(']
        omega
      · have := h _ w rfl hw
        rw [count_cons_eq_add c ')', count_cons_eq_add c '('] at this
        omega

theorem insideParentheses?_balance {n : Nat} {s i : Text} (h : insideParentheses? n s = some i) :
    i.count ')' = n + i.count '(' ∧ ∀ w, w <+: i → w.count ')' ≤ n + w.count '(' := by
  induction s generalizing n i with
  | nil => cases n <;> cases h
  | cons c s ih =>
    rcases closes_or_exists_depth n c with ⟨rfl, rfl⟩ | ⟨m, hm⟩
    · obtain rfl := Option.some.inj h
      exact ⟨rfl, fun w hw => by simp [List.prefix_nil.1 hw]⟩
    · rw [insideParentheses?_cons hm] at h
      obtain ⟨j, hj, rfl⟩ := Option.map_eq_some_iff.1 h
      obtain ⟨hcount, hprefix⟩ := ih hj
      refine ⟨by rw [count_cons_eq_add c ')', count_cons_eq_add c '(']; omega, fun w hw => ?_⟩
      rcases List.prefix_cons_iff.1 hw with rfl | ⟨v, rfl, hv⟩
      · simp
      · have := hprefix v hv
        rw [count_cons_eq_add c ')', count_cons_eq_add c '(']
        omega

def listDepth (w : Text) : Int := 1 + w.count '(' - w.count ')'

/-- The depth is positive wherever the search for the closing parenthesis goes on. -/
theorem listDepth_pos {list w r : Text} (hlist : list = w ++ r)
    (hreached : ∀ inside, insideParentheses? 0 list = some inside → w.length ≤ inside.length) :
    0 < listDepth w := by
  have hcount : w.count ')' ≤ 0 + w.count '(' := by
    cases hi : insideParentheses? 0 list with
    | none => exact insideParentheses?_eq_none_iff.1 hi w ⟨r, hlist.symm⟩
    | some i =>
      obtain ⟨t, ht⟩ := insideParentheses?_eq_append hi
      exact (insideParentheses?_balance hi).2 w
        (List.prefix_of_prefix_length_le ⟨r, hlist.symm⟩ ⟨_, ht.symm⟩ (hreached i hi))
  rw [listDepth]
  omega

/-- Whether the bytes from `a` up to and with `b` close one list more than they open. -/
def ClosesList (code : Bytes) (a b : Nat) : Prop :=
  a ≤ b ∧ b < code.length ∧ ((code.drop a).take (b + 1 - a)).count ')'.toUInt8 =
    ((code.drop a).take (b + 1 - a)).count '('.toUInt8 + 1

section
variable (x list : Text)

theorem drop_utf8_append : (utf8 (x ++ list)).drop (byteLength x) = utf8 list := by
  rw [utf8_append, List.drop_left' (length_utf8 x)]

theorem exists_prefix_of_closesList {b : Nat} (h : ClosesList (utf8 (x ++ list)) (byteLength x) b) :
    ∃ w, w <+: list ∧ w.count ')' = w.count '(' + 1 := by
  obtain ⟨-, -, hcount⟩ := h
  rw [drop_utf8_append] at hcount
  obtain ⟨w, hw, hascii⟩ := exists_prefix_count_eq (List.take_prefix (b + 1 - byteLength x) (utf8 list))
  rw [hascii _ (by decide), hascii _ (by decide)] at hcount
  exact ⟨w, hw, hcount⟩

theorem isLeast_closesList {inside : Text} (h : insideParentheses? 0 list = some inside) :
    IsLeast {b | ClosesList (utf8 (x ++ list)) (byteLength x) b} (byteLength x + byteLength inside) := by
  obtain ⟨hbalance, hprefix⟩ := insideParentheses?_balance h
  obtain ⟨t, rfl⟩ := insideParentheses?_eq_append h
  have hparen : ')'.utf8Size = 1 := rfl
  refine ⟨⟨Nat.le_add_right _ _, ?_, ?_⟩, fun b hb => ?_⟩
  · simp only [length_utf8, byteLength_append, byteLength_cons]
    omega
  · have hlength : byteLength x + byteLength inside + 1 - byteLength x =
        (utf8 (inside ++ [')'])).length := by
      simp only [length_utf8, byteLength_append, byteLength_cons, byteLength_nil]
      omega
    have hlist : inside ++ ')' :: t = (inside ++ [')']) ++ t := by simp
    rw [drop_utf8_append, hlist, utf8_append, hlength, List.take_left, count_utf8 (by decide),
      count_utf8 (by decide), List.count_append, List.count_append, hbalance]
    simp
  · by_contra hlt
    obtain ⟨hle, -, hcount⟩ := hb
    have hprefix' : (utf8 (inside ++ ')' :: t)).take (b + 1 - byteLength x) <+: utf8 inside := by
      rw [utf8_append, List.take_append_of_le_length (by rw [length_utf8]; omega)]
      exact List.take_prefix _ _
    rw [drop_utf8_append] at hcount
    obtain ⟨w, hw, hascii⟩ := exists_prefix_count_eq hprefix'
    rw [hascii _ (by decide), hascii _ (by decide)] at hcount
    have := hprefix w hw
    omega

theorem isSome_insideParentheses?_iff : (insideParentheses? 0 list).isSome = true ↔
    ∃ b, ClosesList (utf8 (x ++ list)) (byteLength x) b := by
  constructor
  · intro h
    obtain ⟨inside, hi⟩ := Option.isSome_iff_exists.1 h
    exact ⟨_, (isLeast_closesList x list hi).1⟩
  · intro h
    obtain ⟨b, hb⟩ := h
    obtain ⟨w, hw, hcount⟩ := exists_prefix_of_closesList x list hb
    rw [Option.isSome_iff_ne_none]
    intro hnone
    have := insideParentheses?_eq_none_iff.1 hnone w hw
    omega

end

/-! ## The first name -/

def IsConstructorName (n : Text) : Prop :=
  ∃ g₁ g₂, n = "function".toList ++ (g₁ ++ ("__construct".toList ++ (g₂ ++ ['(']))) ∧
    (∀ c ∈ g₁ ++ g₂, isBlank c = true) ∧ g₁ ≠ []

/-- Whether the name of a constructor stands in code between `x` and a list, as a word of its own and one
brace deep. -/
structure NamesConstructor (code x n list : Text) : Prop where
  eq : code = x ++ (n ++ list)
  name : IsConstructorName n
  word : isWordAt x.getLast? = false
  depth : openBraces x = 1

theorem IsConstructorName.eq_cons {n : Text} (h : IsConstructorName n) :
    ∃ tail, n = 'f' :: tail ∧ 'f' ∉ tail := by
  obtain ⟨g₁, g₂, rfl, hg, -⟩ := h
  refine ⟨"unction".toList ++ (g₁ ++ ("__construct".toList ++ (g₂ ++ ['(']))), rfl, fun hmem => ?_⟩
  have hblank : 'f' ∉ g₁ ++ g₂ := fun hf => absurd (hg _ hf) (by decide)
  simp only [List.mem_append, not_or] at hmem hblank
  rcases hmem with hf | hf | hf | hf | hf
  · exact absurd hf (by decide)
  · exact hblank.1 hf
  · exact absurd hf (by decide)
  · exact hblank.2 hf
  · exact absurd hf (by decide)

/-- Names do not overlap, so that a search that goes on behind a name misses none. -/
theorem NamesConstructor.length_le {code x n list x' n' list' : Text} (h : NamesConstructor code x n list)
    (h' : NamesConstructor code x' n' list') (hlt : x.length < x'.length) :
    (x ++ n).length ≤ x'.length := by
  by_contra hover
  obtain ⟨tail, rfl, htail⟩ := h.name.eq_cons
  obtain ⟨tail', rfl, -⟩ := h'.name.eq_cons
  obtain ⟨m, rfl⟩ : x <+: x' := List.prefix_of_prefix_length_le ⟨_, h.eq.symm⟩ ⟨_, h'.eq.symm⟩ hlt.le
  have heq := h.eq.symm.trans h'.eq
  rw [List.append_assoc, List.append_cancel_left_eq] at heq
  simp only [List.length_append] at hlt hover
  obtain ⟨k, hk⟩ : m <+: 'f' :: tail := List.prefix_of_prefix_length_le ⟨_, heq.symm⟩ ⟨_, rfl⟩ (by omega)
  rw [← hk, List.append_assoc, List.append_cancel_left_eq] at heq
  cases m with
  | nil => simp at hlt
  | cons d m =>
    cases k with
    | nil => rw [← hk] at hover; simp at hover
    | cons e k =>
      obtain rfl : e = 'f' := (List.cons.inj heq).1
      exact htail ((List.cons.inj hk).2 ▸ List.mem_append_right m List.mem_cons_self)

theorem constructorName_after?_iff {s list : Text} :
    constructorName.after? s = some list ↔ ∃ n, IsConstructorName n ∧ s = n ++ list := by
  simp only [constructorName, Phrase.after?, afterLinks?, Link.after?, Token.after?,
    Option.bind_eq_some_iff, after?_eq_some_iff, afterGap?_eq_some_iff, Option.some.injEq]
  constructor
  · rintro ⟨_, rfl, _, ⟨_, ⟨g₁, rfl, h₁, hn₁, -⟩, rfl⟩, _, ⟨_, ⟨g₂, rfl, h₂, -⟩, rfl⟩, rfl⟩
    exact ⟨_, ⟨g₁, g₂, rfl, fun c hc => (List.mem_append.1 hc).elim (h₁ c) (h₂ c), hn₁ trivial⟩, by simp⟩
  · intro h
    obtain ⟨n, ⟨g₁, g₂, rfl, hg, hn₁⟩, rfl⟩ := h
    simp only [List.append_assoc, List.singleton_append]
    exact ⟨_, rfl, _, ⟨_, ⟨g₁, rfl, fun c hc => hg c (by simp [hc]), fun _ => hn₁,
      isBlank_head?_append (d := '_') rfl (by decide) _⟩, rfl⟩, _, ⟨_, ⟨g₂, rfl,
      fun c hc => hg c (by simp [hc]), by simp,
      isBlank_head?_append (w := ['(']) (d := '(') rfl (by decide) _⟩, rfl⟩, rfl⟩

theorem parameterListAt?_eq_some_iff {code x r : Text} (hcode : code = x ++ r) {p : ParameterList} :
    parameterListAt? x.reverse r = some p ↔ ∃ n list, NamesConstructor code x n list ∧
      insideParentheses? 0 list = some p.inside ∧ p.before = x ++ n := by
  constructor
  · intro h
    cases hl : constructorName.after? r with
    | none => rw [parameterListAt?_eq_none hl] at h; cases h
    | some list =>
      obtain ⟨n, hn, rfl⟩ := constructorName_after?_iff.1 hl
      rw [parameterListAt?_eq hl] at h
      obtain ⟨hcond, h⟩ := Option.ite_none_left_eq_some.1 h
      obtain ⟨i, hi, rfl⟩ := Option.map_eq_some_iff.1 h
      rw [not_or, List.head?_reverse, openBraces_reverse, Bool.not_eq_true, not_not] at hcond
      exact ⟨n, list, ⟨hcode, hn, hcond.1, hcond.2⟩, hi, by simp⟩
  · intro h
    obtain ⟨n, list, ⟨heq, hn, hword, hdepth⟩, hi, hbefore⟩ := h
    rw [hcode, List.append_cancel_left_eq] at heq
    rw [heq, parameterListAt?_eq (constructorName_after?_iff.2 ⟨n, hn, rfl⟩), List.head?_reverse,
      openBraces_reverse, hword, hdepth, if_neg (by decide), hi, Option.map_some, List.reverse_reverse,
      ← hbefore]

def DeclaresAt (code x : Text) (a : Nat) : Prop :=
  ∃ n list b, NamesConstructor code x n list ∧ a = byteLength (x ++ n) ∧ ClosesList (utf8 code) a b

theorem declaresAt_iff {code x r : Text} (hcode : code = x ++ r) {a : Nat} :
    DeclaresAt code x a ↔ ∃ p, parameterListAt? x.reverse r = some p ∧ a = byteLength p.before := by
  simp only [parameterListAt?_eq_some_iff hcode]
  constructor
  · intro h
    obtain ⟨n, list, b, hn, rfl, hb⟩ := h
    have hclose : ClosesList (utf8 (x ++ n ++ list)) (byteLength (x ++ n)) b := by
      rwa [List.append_assoc, ← hn.eq]
    obtain ⟨i, hi⟩ := Option.isSome_iff_exists.1
      ((isSome_insideParentheses?_iff (x ++ n) list).2 ⟨b, hclose⟩)
    exact ⟨⟨x ++ n, i⟩, ⟨n, list, hn, hi, rfl⟩, rfl⟩
  · intro h
    obtain ⟨p, ⟨n, list, hn, hi, hp⟩, rfl⟩ := h
    have hclose := (isLeast_closesList (x ++ n) list hi).1
    rw [Set.mem_ofPred_eq, List.append_assoc, ← hn.eq] at hclose
    exact ⟨n, list, _, hn, by rw [hp], by rwa [hp]⟩

theorem isLeast_span_stop {code x r : Text} (hcode : code = x ++ r) {p : ParameterList}
    (h : parameterListAt? x.reverse r = some p) :
    IsLeast {b | ClosesList (utf8 code) p.span.start b} p.span.stop := by
  obtain ⟨n, list, hn, hi, hp⟩ := (parameterListAt?_eq_some_iff hcode).1 h
  have hleast := isLeast_closesList (x ++ n) list hi
  rwa [List.append_assoc, ← hn.eq, ← hp] at hleast

theorem parameterList?_isSome_iff {code : Text} :
    (parameterList? code).isSome = true ↔ ∃ x a, DeclaresAt code x a := by
  constructor
  · intro h
    obtain ⟨p, hp⟩ := Option.isSome_iff_exists.1 h
    obtain ⟨x, r, hcode, hat, -⟩ := leftmost_eq_some_iff.1 hp
    exact ⟨x, _, (declaresAt_iff hcode).2 ⟨p, hat, rfl⟩⟩
  · intro h
    obtain ⟨x, a, hx⟩ := h
    obtain ⟨n, list, b, hn, -⟩ := id hx
    obtain ⟨p, hp, -⟩ := (declaresAt_iff hn.eq).1 hx
    have hat : (parameterListAt? x.reverse (n ++ list)).isSome = true := by rw [hp, Option.isSome_some]
    rw [parameterList?, hn.eq]
    exact leftmost_isSome hat

theorem parameterList?_map_span_iff {code : Text} {span : Span} :
    (parameterList? code).map ParameterList.span = some span ↔ ∃ x, DeclaresAt code x span.start ∧
      IsLeast {b | ClosesList (utf8 code) span.start b} span.stop ∧
      ∀ x' a', DeclaresAt code x' a' → x.length ≤ x'.length := by
  constructor
  · intro h
    obtain ⟨p, hp, rfl⟩ := Option.map_eq_some_iff.1 h
    obtain ⟨x, r, hcode, hat, hfirst⟩ := leftmost_eq_some_iff.1 hp
    refine ⟨x, (declaresAt_iff hcode).2 ⟨p, hat, rfl⟩, isLeast_span_stop hcode hat, fun x' a' h' => ?_⟩
    obtain ⟨n', list', b', hn', -⟩ := id h'
    obtain ⟨p', hp', -⟩ := (declaresAt_iff hn'.eq).1 h'
    by_contra hlt
    rw [hfirst x' _ hn'.eq (Nat.lt_of_not_le hlt)] at hp'
    cases hp'
  · intro h
    obtain ⟨x, hx, hleast, hfirst⟩ := h
    obtain ⟨n, list, b, hn, -⟩ := id hx
    obtain ⟨p, hp, hstart⟩ := (declaresAt_iff hn.eq).1 hx
    have hlist : parameterList? code = some p := by
      refine leftmost_eq_some_iff.2 ⟨x, n ++ list, hn.eq, hp, fun x' r' hcode hlt => ?_⟩
      by_contra hne
      obtain ⟨p', hp'⟩ := Option.ne_none_iff_exists'.1 hne
      have := hfirst x' _ ((declaresAt_iff hcode).2 ⟨p', hp', rfl⟩)
      omega
    have hstop := isLeast_span_stop hn.eq hp
    rw [show p.span.start = span.start from hstart.symm] at hstop
    rw [hlist, Option.map_some]
    obtain ⟨start, stop⟩ := span
    exact congrArg some (congr_arg₂ Span.mk hstart.symm (hstop.unique hleast))

/-! ## Code in its source -/

theorem maskFrom_eq_append_cons {region : Region} {s x y : Text} {c : Char} (hc : isBlank c = false)
    (h : maskFrom region s = x ++ c :: y) :
    ∃ u v, s = u ++ c :: v ∧ byteLength u = byteLength x := by
  induction s generalizing region x with
  | nil => simp [maskFrom] at h
  | cons d s ih =>
    rw [maskFrom] at h
    generalize region.step d s.head? = next at h
    obtain ⟨shown, hshown⟩ : ∃ shown, shown = if region.keeps next then [d] else blanked d := ⟨_, rfl⟩
    have hbytes : byteLength shown = d.utf8Size := by
      rw [hshown]
      split
      · rfl
      · exact byteLength_blanked d
    rw [← hshown] at h
    rcases List.append_eq_append_iff.1 h with ⟨z, rfl, hz⟩ | ⟨z, hz, hy⟩
    · obtain ⟨u, v, rfl, hu⟩ := ih hz
      exact ⟨d :: u, v, rfl, by rw [byteLength_cons, byteLength_append, hbytes, hu]⟩
    · cases z with
      | nil =>
        obtain ⟨u, v, rfl, hu⟩ := ih (x := []) hy.symm
        rw [List.append_nil] at hz
        exact ⟨d :: u, v, rfl, by rw [byteLength_cons, hu, ← hz, hbytes]; rfl⟩
      | cons e z =>
        obtain rfl : c = e := (List.cons.inj hy).1
        split at hshown
        · rw [hz] at hshown
          rcases List.append_eq_singleton_iff.1 hshown with ⟨rfl, he⟩ | ⟨-, he⟩
          · rw [(List.cons.inj he).1]
            exact ⟨[], s, rfl, rfl⟩
          · cases he
        · -- what is not code is shown as blanks
          have := isBlank_of_mem_blanked (hshown ▸ hz ▸ List.mem_append_right x List.mem_cons_self)
          rw [hc] at this
          cases this

theorem getElem?_utf8_append_cons {c : Char} (hc : c.toNat < 128) (u v : Text) :
    (utf8 (u ++ c :: v))[byteLength u]? = some c.toUInt8 := by
  rw [utf8_append, List.getElem?_append_right (by rw [length_utf8]), length_utf8, Nat.sub_self,
    ← List.singleton_append, utf8_append, utf8_ascii hc]
  rfl

/-- The parentheses of the list stand in the source where they stand in its code. -/
theorem ParameterList.exists_source {s : Text} {p : ParameterList} (h : parameterList? (mask s) = some p) :
    ∃ u i v, s = u ++ '(' :: (i ++ ')' :: v) ∧ byteLength u + 1 = p.span.start ∧
      p.span.start + byteLength i = p.span.stop := by
  obtain ⟨t, ht⟩ := parameterList?_eq_append h
  obtain ⟨q, hq⟩ : ∃ q, p.before = q ++ ['('] :=
    List.getLast?_eq_some_iff.1 (getLast?_before_of_parameterList? h)
  have hparen : '('.utf8Size = 1 := rfl
  obtain ⟨u, w, hu, hstart⟩ : ∃ u w, s = u ++ '(' :: w ∧ byteLength u = byteLength q :=
    maskFrom_eq_append_cons (x := q) (y := p.inside ++ ')' :: t) (by decide) (by rw [← mask, ht, hq]; simp)
  obtain ⟨u', v, hu', hstop⟩ : ∃ u' v, s = u' ++ ')' :: v ∧ byteLength u' = byteLength (p.before ++ p.inside) :=
    maskFrom_eq_append_cons (by decide) ht
  have hprefix : u ++ ['('] <+: s := ⟨w, by simp [hu]⟩
  have hprefix' : u' <+: s := ⟨_, hu'.symm⟩
  have hle : byteLength (u ++ ['(']) ≤ byteLength u' := by
    simp only [hstop, hq, byteLength_append, byteLength_cons, byteLength_nil, hstart]
    omega
  obtain ⟨i, rfl⟩ := List.prefix_of_prefix_length_le hprefix hprefix'
    ((byteLength_le_iff hprefix hprefix').1 hle)
  simp only [hq, byteLength_append, byteLength_cons, byteLength_nil] at hstop
  refine ⟨u, i, v, by simp [hu'], ?_, ?_⟩ <;>
    simp only [ParameterList.span, hq, byteLength_append, byteLength_cons, byteLength_nil] <;> omega

theorem parameterSpan?_between {s : Text} {span : Span} (h : parameterSpan? s = some span) :
    (utf8 s)[span.start - 1]? = some '('.toUInt8 ∧ (utf8 s)[span.stop]? = some ')'.toUInt8 ∧
      0 < span.start ∧ span.start ≤ span.stop ∧ span.stop < byteLength s ∧
      (slice? s span).isSome = true ∧ (slice? (mask s) span).isSome = true := by
  obtain ⟨p, hp, rfl⟩ := Option.map_eq_some_iff.1 h
  obtain ⟨u, i, v, hs, hstart, hstop⟩ := p.exists_source hp
  obtain ⟨t, ht⟩ := parameterList?_eq_append hp
  have hcode : slice? (mask s) p.span = some p.inside := by rw [ht]; exact slice?_append _ _ _
  have hopen : s = (u ++ ['(']) ++ i ++ ')' :: v := by simp [hs]
  have hstart' : byteLength (u ++ ['(']) = p.span.start := by rw [byteLength_append, ← hstart]; rfl
  have hsource : slice? s p.span = some i := by
    rw [hopen, ← slice?_append (u ++ ['(']) i (')' :: v), hstart', hstop]
  have hbefore : (utf8 s)[p.span.start - 1]? = some '('.toUInt8 := by
    rw [hs, ← hstart, Nat.add_sub_cancel]
    exact getElem?_utf8_append_cons (by decide) _ _
  have hafter : (utf8 s)[p.span.stop]? = some ')'.toUInt8 := by
    rw [hopen, ← hstop, ← hstart', ← byteLength_append]
    exact getElem?_utf8_append_cons (by decide) _ _
  refine ⟨hbefore, hafter, by omega, by omega, ?_, by rw [hsource]; rfl, by rw [hcode]; rfl⟩
  rw [← length_utf8]
  exact (List.getElem?_eq_some_iff.1 hafter).1

/-- The range is that of the first list of a class constructor, it stands between two parentheses of the
source, and no part of a list that the search for its end goes over closes it. -/
theorem parameterSpan?_exact (s : Text) :
    (∀ span, parameterSpan? s = some span ↔ ∃ x, DeclaresAt (mask s) x span.start ∧
      IsLeast {b | ClosesList (utf8 (mask s)) span.start b} span.stop ∧
      ∀ x' a', DeclaresAt (mask s) x' a' → x.length ≤ x'.length) ∧
    ((parameterSpan? s).isSome = true ↔ ∃ x a, DeclaresAt (mask s) x a) ∧
    (∀ span, parameterSpan? s = some span →
      (utf8 s)[span.start - 1]? = some '('.toUInt8 ∧ (utf8 s)[span.stop]? = some ')'.toUInt8 ∧
      0 < span.start ∧ span.start ≤ span.stop ∧ span.stop < byteLength s ∧
      (slice? s span).isSome = true ∧ (slice? (mask s) span).isSome = true) ∧
    ∀ list w c r, list = w ++ c :: r →
      (∀ inside, insideParentheses? 0 list = some inside → w.length ≤ inside.length) →
      0 < listDepth w := by
  have hdeclares : (parameterSpan? s).isSome = true ↔ ∃ x a, DeclaresAt (mask s) x a := by
    rw [parameterSpan?, Option.isSome_map, parameterList?_isSome_iff]
  exact ⟨fun _ => parameterList?_map_span_iff, hdeclares, fun _ => parameterSpan?_between,
    fun _ _ _ _ => listDepth_pos⟩

end Wiring
