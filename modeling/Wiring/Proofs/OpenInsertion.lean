import Wiring.Proofs.Insertion
import Wiring.Proofs.OpenConstructor

/-!
# Open constructors in joined texts

The open constructors of a text after a parameter is added to the first of them
(`firstOpen?_append_eq_none_iff`), and around a text that closes a list of its own
(`firstOpen?_closed_eq_none_iff`).
-/

namespace Wiring

theorem openConstructor?_append {s : Text} (h : (openConstructor? s).isSome = true) (r : Text) :
    (openConstructor? (s ++ r)).isSome = true := by
  rw [openConstructor?_isSome_iff_layout] at h ⊢
  obtain ⟨n, pre, post, rfl, hp, hlocal, h₁, g, t, rfl, hg⟩ := h
  exact ⟨n, pre, g ++ '{' :: (t ++ r), by simp, hp, hlocal, h₁, g, t ++ r, rfl, hg⟩

theorem openConstructor?_of_append_close {s r : Text} (hs : ¬ EndsOpen s)
    (h : (openConstructor? (s ++ ')' :: r)).isSome = true) : (openConstructor? s).isSome = true := by
  rw [openConstructor?_isSome_iff_layout] at h ⊢
  obtain ⟨n, pre, post, heq, hp, hlocal, h₁, h₂⟩ := h
  by_cases hsp : ')' ∈ s
  · obtain ⟨x, y, rfl, hx⟩ := List.eq_append_cons_of_mem hsp
    rw [List.append_assoc, List.cons_append] at heq
    obtain ⟨rfl, rfl⟩ := append_cons_inj hx hp heq
    refine ⟨n, pre, y, by simp, hp, hlocal, h₁, ?_⟩
    by_cases hy : ∃ c ∈ y, isBlank c = false
    · exact (opensBody_append_of_exists hy _).1 h₂
    · simp only [not_exists, not_and, Bool.not_eq_false] at hy
      rw [opensBody_append_of_blank hy, opensBody_iff] at h₂
      exact absurd h₂ (by simp [show isBlank ')' = false by decide])
  · obtain ⟨rfl, -⟩ := append_cons_inj hsp hp heq
    exact absurd (h₁.append (n ++ ['('])) (by simpa using hs)

theorem openConstructor?_of_append {s r : Text} (hr : ')' ∉ r) (hb : ¬ OpensBody r)
    (h : (openConstructor? (s ++ r)).isSome = true) : (openConstructor? s).isSome = true := by
  rw [openConstructor?_isSome_iff_layout] at h ⊢
  obtain ⟨n, pre, post, heq, hp, hlocal, h₁, h₂⟩ := h
  have hsp : ')' ∈ s := by
    have hmem : ')' ∈ s ++ r := by simp [heq]
    exact (List.mem_append.1 hmem).resolve_right hr
  obtain ⟨x, y, rfl, hx⟩ := List.eq_append_cons_of_mem hsp
  rw [List.append_assoc, List.cons_append] at heq
  obtain ⟨rfl, rfl⟩ := append_cons_inj hx hp heq
  refine ⟨n, pre, y, by simp, hp, hlocal, h₁, ?_⟩
  by_cases hy : ∃ c ∈ y, isBlank c = false
  · exact (opensBody_append_of_exists hy _).1 h₂
  · simp only [not_exists, not_and, Bool.not_eq_false] at hy
    exact absurd ((opensBody_append_of_blank hy _).1 h₂) hb

theorem mem_of_openConstructor? {s : Text} (h : (openConstructor? s).isSome = true) : ')' ∈ s := by
  obtain ⟨n, pre, post, rfl, -⟩ := openConstructor?_isSome_iff_layout.1 h
  simp

theorem head?_of_openConstructor? {s : Text} (h : (openConstructor? s).isSome = true) :
    s.head? = some 'p' := by
  obtain ⟨list, hlist, -⟩ := openConstructor?_isSome_iff.1 h
  exact Phrase.head?_of_after? (u := "ublic".toList) rfl hlist

/-- Open constructors around a text that ends with a list of its own: it adds none, and those that
begin before it end before it. -/
theorem firstOpen?_closed_eq_none_iff {a x y b : Text} (hx : ')' ∉ x) (hxb : ¬ OpensBody x)
    (hxo : ¬ EndsOpen (a ++ x)) (hy : 'p' ∉ y) :
    firstOpen? (a ++ x ++ ')' :: (y ++ b)) = none ↔ firstOpen? a = none ∧ firstOpen? b = none := by
  simp only [firstOpen?_eq_none_iff]
  constructor
  · intro h
    refine ⟨fun s hs => ?_, fun s hs => h s ?_⟩
    · by_contra hne
      have hsome := openConstructor?_append (Option.isSome_iff_ne_none.2 hne) (x ++ ')' :: (y ++ b))
      obtain ⟨t, rfl⟩ := hs
      simp [h (s ++ (x ++ ')' :: (y ++ b))) ⟨t, by simp⟩] at hsome
    · obtain ⟨t, rfl⟩ := hs
      exact ⟨a ++ x ++ ')' :: (y ++ t), by simp⟩
  · rintro ⟨ha, hb⟩ s hs
    by_contra hne
    have hsome : (openConstructor? s).isSome = true := Option.isSome_iff_ne_none.2 hne
    rw [show a ++ x ++ ')' :: (y ++ b) = (a ++ x) ++ ((')' :: y) ++ b) by simp] at hs
    rcases suffix_append_cases hs with hs | ⟨v, hv, hvs, rfl⟩
    · rcases suffix_append_cases hs with hs | ⟨v, hv, hvs, rfl⟩
      · exact hne (hb s hs)
      · obtain ⟨c, v, rfl⟩ := List.exists_cons_of_ne_nil hv
        have hc := Option.some.inj (head?_of_openConstructor? hsome)
        rw [hc] at hvs
        exact absurd (hvs.subset (List.mem_cons_self ..)) (by simp [hy])
    · have hvo : ¬ EndsOpen v := fun h => by
        obtain ⟨t, ht⟩ := hvs
        exact hxo (ht ▸ h.append t)
      have hvs' := openConstructor?_of_append_close hvo hsome
      rcases suffix_append_cases hvs with hvx | ⟨u, hu, hua, rfl⟩
      · exact hx (hvx.subset (mem_of_openConstructor? hvs'))
      · have := openConstructor?_of_append hx hxb hvs'
        simp [ha u hua] at this

theorem isIndent_of_lastLineIndent (s : Text) : IsIndent (lastLineIndent s) :=
  fun _ => List.mem_takeWhile_imp

theorem OpenConstructor.isIndent_indent (o : OpenConstructor) : IsIndent o.indent := by
  unfold indent
  split
  · exact isIndent_of_lastLineIndent o.head
  · exact isIndent_replicate 8

def OpenConstructor.closingIndent (o : OpenConstructor) : Text :=
  if o.closing.head? = some ')' then o.indent else []

theorem OpenConstructor.isIndent_closingIndent (o : OpenConstructor) : IsIndent o.closingIndent := by
  unfold closingIndent
  split
  · exact o.isIndent_indent
  · intro c hc; cases hc

theorem firstOpen?_before_eq_none {s u : Text} {o : OpenConstructor} (h : firstOpen? s = some (u, o)) :
    firstOpen? u = none := by
  obtain ⟨rfl, ho, hu⟩ := firstOpen?_eq_some h
  refine firstOpen?_eq_none_iff.2 fun y ⟨v, hv⟩ => ?_
  by_contra hne
  have hsome : (openConstructor? y).isSome = true := Option.isSome_iff_ne_none.2 hne
  have := openConstructor?_append hsome o.text
  rw [hu v y hv.symm (by rintro rfl; cases head?_of_openConstructor? hsome)] at this
  cases this

theorem head?_head_of_openConstructor? {s : Text} {o : OpenConstructor}
    (h : openConstructor? s = some o) : o.head.head? = some 'p' := by
  obtain ⟨rfl, -, n, l, hhead, -⟩ := openConstructor?_parts h
  have := head?_of_openConstructor? (s := o.text) (by rw [h]; rfl)
  rw [OpenConstructor.text, hhead] at this
  rw [hhead]
  cases n with
  | nil => cases this
  | cons c n => exact this

/-- Another parameter uses the open constructor up. -/
theorem firstOpen?_append_eq_none_iff {s u p : Text} {o : OpenConstructor} {e : Char}
    (h : firstOpen? s = some (u, o)) (hp : ')' ∉ p) (he : p.getLast? = some e)
    (hel : isBlank e = false ∧ e ≠ ',') :
    firstOpen? (u ++ o.append p) = none ↔ firstOpen? o.rest = none := by
  obtain ⟨rfl, ho, -⟩ := firstOpen?_eq_some h
  obtain ⟨-, hf, -⟩ := openConstructor?_parts ho
  obtain ⟨i, hcomma, hi⟩ := hf.comma
  obtain ⟨j, g, hclosing, hj, hg⟩ := hf.closing
  obtain ⟨p, rfl⟩ := List.getLast?_eq_some_iff.1 he
  -- the lines from the name to the parenthesis, and the end of the last of them
  let z := o.lineBreak ++ (o.closingIndent ++ j)
  let x := o.head ++ (o.comma ++ (o.lineBreak ++ (o.indent ++ (p ++ e :: z))))
  have hz : ∀ c ∈ z, isBlank c = true := by
    intro c hc
    rcases List.mem_append.1 hc with hc | hc
    · exact hf.lineBreak.isBlank c hc
    · rcases List.mem_append.1 hc with hc | hc
      · exact isBlank_of_isIndent (o.isIndent_closingIndent c hc)
      · exact isBlank_of_isIndent (hj c hc)
  have htext : u ++ o.append (p ++ [e]) = u ++ x ++ ')' :: ((g ++ ['{']) ++ o.rest) := by
    rw [OpenConstructor.append, ← OpenConstructor.closingIndent, hclosing]
    simp [x, z]
  rw [htext, firstOpen?_closed_eq_none_iff, and_iff_right (firstOpen?_before_eq_none h)]
  · have hclose : isBlank ')' = false := by decide
    have h₁ := notMem_of_isBlank (fun c hc => isBlank_of_isIndent (hi c hc)) hclose
    have h₂ := notMem_of_isBlank hf.lineBreak.isBlank hclose
    have h₃ := notMem_of_isBlank (fun c hc => isBlank_of_isIndent (o.isIndent_indent c hc)) hclose
    simpa [x, hcomma, hf.head, h₁, h₂, h₃, notMem_of_isBlank hz hclose] using hp
  · intro hb
    obtain ⟨t, ht⟩ := List.head?_eq_some_iff.1 (head?_head_of_openConstructor? ho)
    rw [opensBody_iff] at hb
    simp [x, ht, show isBlank 'p' = false by decide] at hb
  · rw [show u ++ x = u ++ o.head ++ o.comma ++ o.lineBreak ++ o.indent ++ p ++ e :: z by simp [x]]
    exact not_endsOpen_of_last hel (notMem_of_isBlank hz (by decide))
  · have := notMem_of_isBlank hg (by decide : isBlank 'p' = false)
    simpa using this

/-! ## Quiet insertions -/

theorem publicConstructor_isSolid : publicConstructor.IsSolid where
  words l hl w hw := by
    simp only [publicConstructor, List.mem_cons, List.not_mem_nil, or_false] at hl
    rcases hl with rfl | rfl | rfl <;> cases hw
    · exact ⟨'f', "unction".toList, rfl, by decide⟩
    · exact ⟨'_', "_construct".toList, rfl, by decide⟩
    · exact ⟨'(', [], rfl, by decide⟩
  excludes e he := by
    rcases edge_cases he with rfl | rfl | rfl | rfl <;>
      simp [Phrase.Excludes, publicConstructor, Token.Excludes]
  mark := ⟨⟨false, .word ['(']⟩, by simp [publicConstructor], .inl rfl⟩

/-- Whether an insertion stands between visible characters that end no list. -/
def IsWalled (a w b : Text) : Prop :=
  (∀ e ∈ a.getLast?, e = ';') ∧ w.getLast? = some ';' ∨ w.head? = some 'u' ∧ b.head? = some 'u'

theorem IsWalled.opensBody_iff {pre post w b : Text} (h : IsWalled (pre ++ ')' :: post) w b) :
    OpensBody (post ++ (w ++ b)) ↔ OpensBody (post ++ b) := by
  by_cases hb : ∃ c ∈ post, isBlank c = false
  · rw [opensBody_append_of_exists hb, opensBody_append_of_exists hb]
  · simp only [not_exists, not_and, Bool.not_eq_false] at hb
    rw [opensBody_append_of_blank hb, opensBody_append_of_blank hb]
    rcases h with ⟨he, -⟩ | ⟨hwu, hbu⟩
    · exfalso
      rcases List.eq_nil_or_concat post with rfl | ⟨post, e, rfl⟩
      · simp at he
      · rw [show pre ++ ')' :: post.concat e = (pre ++ ')' :: post) ++ [e] by simp] at he
        obtain rfl := he e List.getLast?_concat
        exact absurd (hb ';' (by simp)) (by decide)
    · obtain ⟨w, rfl⟩ := List.head?_eq_some_iff.1 hwu
      obtain ⟨b, rfl⟩ := List.head?_eq_some_iff.1 hbu
      simp [Wiring.opensBody_iff, show isBlank 'u' = false by decide]

theorem IsWalled.endsOpen_iff {y w b post : Text} (hy : y ≠ [])
    (h : IsWalled y w (b ++ ')' :: post)) : EndsOpen (y ++ (w ++ b)) ↔ EndsOpen (y ++ b) := by
  rcases h with ⟨he, hw⟩ | ⟨-, hbu⟩
  · obtain ⟨w, rfl⟩ := List.getLast?_eq_some_iff.1 hw
    obtain ⟨y, e, rfl⟩ := (List.eq_nil_or_concat y).resolve_left hy
    obtain rfl := he e (by simp)
    have hwall : ∀ x, EndsOpen (x ++ ';' :: b) ↔ EndsOpen (';' :: b) := fun x =>
      ⟨fun h => h.of_append ⟨';', by simp, by decide, by decide⟩, fun h => h.append x⟩
    have hshort := hwall y
    have hlong := hwall (y ++ [';'] ++ w)
    simp only [List.append_assoc, List.cons_append, List.nil_append,
      List.concat_eq_append] at hshort hlong ⊢
    rw [hshort, hlong]
  · have hu : ∃ c ∈ b, isBlank c = false ∧ c ≠ ',' := by
      cases b with
      | nil => simp at hbu
      | cons c b => exact ⟨c, by simp, by simp at hbu; subst hbu; decide⟩
    rw [← List.append_assoc]
    exact ⟨fun h => (h.of_append hu).append y, fun h => (h.of_append hu).append (y ++ w)⟩

theorem openList?_insert {y w b : Text} (hy : y ≠ []) (hw : ')' ∉ w) (h : IsWalled y w b) :
    (openList? (y ++ (w ++ b))).isSome = true ↔ (openList? (y ++ b)).isSome = true := by
  by_cases hp : ')' ∈ y
  · obtain ⟨pre, post, rfl, hpre⟩ := List.eq_append_cons_of_mem hp
    simp only [List.append_assoc, List.cons_append]
    rw [openList?_isSome_iff hpre, openList?_isSome_iff hpre, h.opensBody_iff]
  · by_cases hb : ')' ∈ b
    · obtain ⟨b, post, rfl, hbp⟩ := List.eq_append_cons_of_mem hb
      have hends := h.endsOpen_iff hy
      rw [← List.append_assoc] at hends
      rw [← List.append_assoc, ← List.append_assoc, ← List.append_assoc,
        openList?_isSome_iff (by simp [hp, hw, hbp]), openList?_isSome_iff (by simp [hp, hbp]), hends]
    · rw [openList?_eq_none (by simp [hp, hw, hb]), openList?_eq_none (by simp [hp, hb])]

theorem QuietInsertion.firstOpen?_eq_none_iff {a w b : Text} (h : QuietInsertion a w b)
    (hwall : IsWalled a w b) : firstOpen? (a ++ (w ++ b)) = none ↔ firstOpen? (a ++ b) = none := by
  rw [← Option.not_isSome_iff_eq_none, ← Option.not_isSome_iff_eq_none, not_iff_not,
    firstOpen?_isSome_iff, firstOpen?_isSome_iff]
  refine (h.sourceSeam publicConstructor_isSolid).exists_after?_iff fun y hy hya => ?_
  exact openList?_insert hy h.flat.2.1
    (hwall.imp_left fun hw => ⟨fun e he => hw.1 e (mem_getLast?_of_suffix hya he), hw.2⟩)

end Wiring
