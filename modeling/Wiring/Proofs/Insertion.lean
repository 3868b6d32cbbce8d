import Wiring.Proofs.Masking
import Wiring.Proofs.Recognition

/-!
# Insertions into sources

An insertion of lines that open and close nothing moves the parameter list of the class constructor
or goes into it: `QuietInsertion.parameterList?_eq`. Only an insertion that brings a variable along,
into code, can make a difference to what is recognised: `QuietInsertion.isTaken_eq`.
-/

namespace Wiring

/-! ## What comes first in a text -/

def Settles (r : Text) : Prop :=
  ∃ s c t, r = s ++ c :: t ∧ (∀ x ∈ s, isBlank x = true) ∧ (c.isAlpha = true ∨ c = ')')

theorem not_isBlank_of_settling {c : Char} (h : c.isAlpha = true ∨ c = ')') : isBlank c = false := by
  rcases h with h | rfl
  · exact isBlank_of_isAsciiWord (by simp [isAsciiWord, Char.isAlphanum, h])
  · decide

theorem inert_of_isBlank {c : Char} (h : isBlank c = true) :
    c ≠ '/' ∧ c ≠ '#' ∧ c ≠ '\'' ∧ c ≠ '"' := by
  refine ⟨?_, ?_, ?_, ?_⟩ <;> (rintro rfl; exact absurd h (by decide))

theorem Settles.mask {r : Text} (h : Settles r) : Settles (maskFrom .code r) := by
  obtain ⟨s, c, t, rfl, hs, hc⟩ := h
  induction s with
  | nil =>
    have h₁ : c ≠ '/' := by rintro rfl; exact absurd hc (by decide)
    have h₂ : c ≠ '#' := by rintro rfl; exact absurd hc (by decide)
    have h₃ : ¬ (c = '\'' ∨ c = '"') := by rintro (rfl | rfl) <;> exact absurd hc (by decide)
    refine ⟨[], c, maskFrom .code t, ?_, by simp, hc⟩
    simp [maskFrom, Region.step, h₁, h₂, h₃, Region.keeps]
  | cons x s ih =>
    obtain ⟨h₁, h₂, h₃, h₄⟩ := inert_of_isBlank (hs x (by simp))
    obtain ⟨s', c', t', h, hs', hc'⟩ := ih fun y hy => hs y (by simp [hy])
    refine ⟨x :: s', c', t', ?_, ?_, hc'⟩
    · simp [maskFrom, Region.step, h₁, h₂, h₃, h₄, Region.keeps, h]
    · simpa [hs x (by simp)] using hs'

theorem Settles.append {r : Text} (h : Settles r) (s : Text) : Settles (r ++ s) := by
  obtain ⟨u, c, t, rfl, hu, hc⟩ := h
  exact ⟨u, c, t ++ s, by simp, hu, hc⟩

/-- Whether a text begins, after blanks, with a closing parenthesis or with a word that no layout
goes on with. -/
inductive Breaks : Text → Prop
  | close {s t : Text} (hs : ∀ x ∈ s, isBlank x = true) : Breaks (s ++ ')' :: t)
  | word {s k t : Text} {c : Char} (hs : ∀ x ∈ s, isBlank x = true)
      (hk : k ∈ ["use".toList, "private".toList]) (hc : isBlank c = true) : Breaks (s ++ (k ++ c :: t))

theorem Breaks.settles {r : Text} (h : Breaks r) : Settles r := by
  cases h with
  | close hs => exact ⟨_, ')', _, rfl, hs, .inr rfl⟩
  | word hs hk hc =>
    simp only [List.mem_cons, List.not_mem_nil, or_false] at hk
    rcases hk with rfl | rfl <;> exact ⟨_, _, _, rfl, hs, .inl (by decide)⟩

theorem Breaks.dropWhile_eq {r : Text} (h : Breaks r) : ∃ k z, r.dropWhile isBlank = k ++ z ∧
    k ∈ [[], "use".toList, "private".toList] ∧ isWordAt z.head? = false ∧
    ∃ c ∈ [')', 'u', 'p'], (k ++ z).head? = some c := by
  cases h with
  | @close s t hs =>
    refine ⟨[], ')' :: t, ?_, by simp, rfl, ')', by simp, rfl⟩
    rw [List.dropWhile_append_of_pos hs]
    exact List.dropWhile_cons_of_neg (by decide)
  | @word s k t c hs hk hc =>
    have hp : ∀ k ∈ ["use".toList, "private".toList],
        ∃ d u, k = d :: u ∧ isBlank d = false ∧ d ∈ [')', 'u', 'p'] := by
      intro k hk
      simp only [List.mem_cons, List.not_mem_nil, or_false] at hk
      rcases hk with rfl | rfl <;> exact ⟨_, _, rfl, by decide, by decide⟩
    obtain ⟨d, u, rfl, hdb, hd⟩ := hp k hk
    refine ⟨d :: u, c :: t, ?_, List.mem_cons_of_mem _ hk, isWord_of_isBlank hc, d, hd, rfl⟩
    rw [List.dropWhile_append_of_pos hs]
    exact List.dropWhile_cons_of_neg (by simp [hdb])

theorem Token.after?_of_breaks {t : Token} {r : Text} (h : Breaks r)
    (ht : ∀ w, t = .word w → ∃ d u, w = d :: u ∧ d ∉ [')', 'u', 'p']) :
    t.after? (r.dropWhile isBlank) = none := by
  obtain ⟨k, z, hkz, hk, hz, c, hc, hhead⟩ := h.dropWhile_eq
  rw [hkz]
  cases t with
  | word w =>
    obtain ⟨d, u, rfl, hd⟩ := ht w rfl
    obtain ⟨v, hv⟩ := List.head?_eq_some_iff.1 hhead
    have hdc : d ≠ c := fun h => hd (h ▸ hc)
    simp [hv, Token.after?, Wiring.after?, hdc]
  | controllerName =>
    obtain ⟨hkw, hno⟩ := (by decide : ∀ k ∈ [[], "use".toList, "private".toList],
      k.all isWord = true ∧ isControllerName k = false) k hk
    have htake : (k ++ z).takeWhile isWord = k := by
      rw [List.takeWhile_append_of_pos (List.all_eq_true.1 hkw)]
      cases z with
      | nil => simp
      | cons c z =>
        have hc : isWord c = false := hz
        rw [List.takeWhile_cons_of_neg (by simp [hc]), List.append_nil]
    simp [Token.after?, afterControllerName?, htake, hno]

/-- Whether the tokens of a phrase after its first begin with marks that are no letters. -/
def Phrase.IsMarked (φ : Phrase) : Prop :=
  ∀ l ∈ φ.links, ∃ d u, l.token = .word (d :: u) ∧ d.isAlpha = false ∧ d ≠ ')'

theorem constructorName_isMarked : constructorName.IsMarked := by
  intro l hl
  simp only [constructorName, List.mem_cons, List.not_mem_nil, or_false] at hl
  rcases hl with rfl | rfl
  · exact ⟨'_', "_construct".toList, rfl, by decide, by decide⟩
  · exact ⟨'(', [], rfl, by decide, by decide⟩

theorem Dependency.pair_isMarked (d : Dependency) : d.pair.IsMarked := by
  intro l hl
  simp only [pair, List.mem_singleton] at hl
  subst hl
  exact ⟨'$', d.name, rfl, by decide, by decide⟩

theorem Phrase.IsMarked.stops {φ : Phrase} (hφ : φ.IsMarked) {r i : Text} (hr : Settles r)
    (hi : i <+: r) : φ.Stops i := by
  intro l hl
  obtain ⟨d, u, hd, hda, hdp⟩ := hφ l hl
  obtain ⟨s, c, t, rfl, hs, hc⟩ := hr
  have hcd : d ≠ c := by
    rintro rfl
    rcases hc with hc | hc
    · simp [hda] at hc
    · exact hdp hc
  obtain ⟨k, hk⟩ := hi
  rcases List.append_eq_append_iff.1 hk with ⟨v, rfl, -⟩ | ⟨v, rfl, hv⟩
  · have : i.dropWhile isBlank = [] := List.dropWhile_eq_nil_iff.2 fun x hx => hs x (by simp [hx])
    simp [this, hd, Token.after?, Wiring.after?]
  · rw [List.dropWhile_append_of_pos hs]
    cases v with
    | nil => simp [hd, Token.after?, Wiring.after?]
    | cons e v =>
      obtain ⟨rfl, -⟩ := List.cons.inj hv
      rw [List.dropWhile_cons_of_neg (by simp [not_isBlank_of_settling hc])]
      simp [hd, Token.after?, Wiring.after?, hcd]

/-! ## Quiet insertions -/

def isEdge (c : Char) : Bool := c == '\n' || c == ' ' || c == '\t' || c == ';'

theorem edge_cases {c : Char} (h : isEdge c = true) : c = '\n' ∨ c = ' ' ∨ c = '\t' ∨ c = ';' := by
  simpa [isEdge, or_assoc] using h

theorem looksAhead_of_isEdge {c : Char} (h : isEdge c = true) : looksAhead c = false := by
  rcases edge_cases h with rfl | rfl | rfl | rfl <;> decide

theorem isWord_of_isEdge {c : Char} (h : isEdge c = true) : isWord c = false := by
  rcases edge_cases h with rfl | rfl | rfl | rfl <;> decide

/-- An insertion of `w` between `a` and `b` that opens and closes nothing, and leaves words, comments
and strings as they are. -/
structure QuietInsertion (a w b : Text) : Prop where
  before : ∀ e ∈ a.getLast?, e = '\n' ∨ e = ';'
  last : ∀ e ∈ w.getLast?, isEdge e = true
  inert : IsInert w
  flat : IsFlat w
  region : (regionAt a b).IsOpen
  breaks : ∀ e ∈ a.getLast?, isBlank e = true → Breaks (w ++ b) ∧ Breaks b
  breaks_after : ∀ e ∈ w.getLast?, isBlank e = true → Breaks b

theorem QuietInsertion.isEdge_before {a w b : Text} (h : QuietInsertion a w b) :
    ∀ e ∈ a.getLast?, isEdge e = true := fun e he => by
  rcases h.before e he with rfl | rfl <;> rfl

structure Phrase.IsSolid (φ : Phrase) : Prop where
  words : ∀ l ∈ φ.links, ∀ w, l.token = .word w → ∃ d u, w = d :: u ∧ d ∉ [')', 'u', 'p']
  excludes : ∀ e, isEdge e = true → φ.Excludes e
  mark : ∃ l ∈ φ.links, l.token = .word ['('] ∨ l.token = .word ['{']

theorem Phrase.IsSolid.stops {φ : Phrase} (hφ : φ.IsSolid) {r : Text} (h : Breaks r) : φ.Stops r :=
  fun l hl => Token.after?_of_breaks h (hφ.words l hl)

theorem QuietInsertion.sourceSeam {a w b : Text} (h : QuietInsertion a w b) {φ : Phrase}
    (hφ : φ.IsSolid) : φ.Seam a w b := by
  refine .of_absent (fun l hl hw => ?_) (fun e he => ⟨hφ.excludes e (h.isEdge_before e he), fun hb =>
    ?_⟩) (fun e he => ⟨hφ.excludes e (h.last e he), fun hb => hφ.stops (h.breaks_after e he hb)⟩) ?_
  · obtain ⟨d, u, hd, -⟩ := hφ.words l hl _ hw
    cases hd
  · exact (h.breaks e he hb).imp hφ.stops hφ.stops
  · obtain ⟨l, hl, hm | hm⟩ := hφ.mark
    · exact ⟨l, hl, _, hm, '(', by simp, h.flat.1⟩
    · exact ⟨l, hl, _, hm, '{', by simp, h.flat.2.2.1⟩

structure Phrase.IsFirm (φ : Phrase) : Prop where
  marked : φ.IsMarked
  excludes : ∀ e, isEdge e = true → φ.Excludes e
  first : ∃ d u, φ.first = .word (d :: u) ∧ isBlank d = false

theorem constructorName_excludes {e : Char} (he : isWord e = false) (hopen : e ≠ '(') :
    constructorName.Excludes e := by
  have hword : ∀ w : Text, w.all isAsciiWord = true → e ∉ w := by
    intro w hw hmem
    simp [isWord_of_isAsciiWord (List.all_eq_true.1 hw e hmem)] at he
  simp only [Phrase.Excludes, constructorName, Token.Excludes, List.forall_mem_cons]
  exact ⟨hword _ (by decide), hword _ (by decide), by simpa using hopen, by simp⟩

theorem Dependency.IsNamed.pair_excludes {d : Dependency} (hd : d.IsNamed) {e : Char}
    (he : isWord e = false) (hvariable : e ≠ '$') : d.pair.Excludes e := by
  have he := isAsciiWord_of_not_isWord he
  simp [Phrase.Excludes, pair, Token.Excludes, notMem_of_isIdentifier hd.1 he,
    notMem_of_isIdentifier hd.2 he, hvariable]

theorem constructorName_isFirm : constructorName.IsFirm where
  marked := constructorName_isMarked
  excludes e he := constructorName_excludes (isWord_of_isEdge he) (by rintro rfl; cases he)
  first := ⟨'f', "unction".toList, rfl, by decide⟩

theorem Dependency.pair_isFirm {d : Dependency} (hd : d.IsNamed) : d.pair.IsFirm where
  marked := d.pair_isMarked
  excludes e he := hd.pair_excludes (isWord_of_isEdge he) (by rintro rfl; cases he)
  first := by
    obtain ⟨ht, htw⟩ := isAsciiWord_of_isIdentifier hd.1
    obtain ⟨c, t, hct⟩ := List.exists_cons_of_ne_nil ht
    exact ⟨c, t, by rw [pair, hct], isBlank_of_isAsciiWord (htw c (by simp [hct]))⟩

/-! ## Blanks in code -/

section
variable {a w b : Text} {e : Char} (he : a.getLast? = some e) (hword : isWord e = false)
  (hw : ∀ c ∈ w, isBlank c = true)
include he

theorem eq_of_mem_getLast?_suffix {y : Text} (hy : y <:+ a) : ∀ c ∈ y.getLast?, c = e := by
  intro c hc
  exact Option.some.inj ((mem_getLast?_of_suffix hy hc).symm.trans he)

include hw

theorem Phrase.IsFirm.seam_of_blank {φ : Phrase} (hφ : φ.IsFirm) (hexcludes : φ.Excludes e) {y : Text}
    (hy : y <:+ a) (z : Text) : φ.Seam y w z := by
  refine .of_blank (fun l hl => ?_) (fun c hc => ?_) hw hφ.first
  · obtain ⟨c, v, hv, -⟩ := hφ.marked l hl
    simp [hv]
  · exact eq_of_mem_getLast?_suffix he hy c hc ▸ hexcludes

include hword

theorem isWordAt_of_blank {y : Text} (hy : y <:+ a) :
    isWordAt y.getLast? = false ∧ isWordAt (y ++ w).getLast? = false := by
  have hlast : isWordAt y.getLast? = false := by
    cases hc : y.getLast? with
    | none => rfl
    | some c => exact eq_of_mem_getLast?_suffix he hy c hc ▸ hword
  refine ⟨hlast, ?_⟩
  rw [List.getLast?_append]
  cases hc : w.getLast? with
  | none => exact hlast
  | some c => exact isWord_of_isBlank (hw c (List.mem_of_getLast? hc))

theorem parameterList?_insert_blanks (hopen : e ≠ '(') :
    parameterList? (a ++ (w ++ b)) = (parameterList? (a ++ b)).map (·.insert a.length w) := by
  have hnot := @notMem_of_isBlank w hw
  have hlast := isWordAt_of_blank he hword hw List.suffix_rfl
  exact parameterList?_insert (constructorName_isFirm.seam_of_blank he hw
    (constructorName_excludes hword hopen) List.suffix_rfl b)
    ⟨hnot (by decide), hnot (by decide), hnot (by decide), hnot (by decide)⟩ hlast.1 hlast.2

theorem Dependency.IsNamed.any_isAmong_insert_blanks {d : Dependency} (hd : d.IsNamed)
    (hopen : e ≠ '(') (hvariable : e ≠ '$') :
    (parameterList? (a ++ (w ++ b))).any (d.isAmong ·.inside) =
      (parameterList? (a ++ b)).any (d.isAmong ·.inside) :=
  d.any_isAmong_insert (parameterList?_insert_blanks he hword hw hopen)
    (fun _ z hy _ => (pair_isFirm hd).seam_of_blank he hw (hd.pair_excludes hword hvariable) hy z)
    fun _ hy => isWordAt_of_blank he hword hw hy

end

section
variable {a w b : Text} (h : QuietInsertion a w b)
include h

theorem QuietInsertion.mask_eq :
    mask (a ++ b) = maskPart b.head? .code a ++ maskFrom (regionAt a b) b ∧
      mask (a ++ (w ++ b)) = maskPart b.head? .code a ++
        ((regionAt a b).shown w ++ maskFrom (regionAt a b) b) :=
  ⟨mask_append a b, mask_insert (fun e he => looksAhead_of_isEdge (h.isEdge_before e he)) h.inert h.region⟩

theorem QuietInsertion.isEdge_of_mem_getLast? {e : Char}
    (he : e ∈ (maskPart b.head? .code a).getLast?) : isEdge e = true := by
  cases ha : a.getLast? with
  | none => rw [List.getLast?_eq_none_iff.1 ha] at he; cases he
  | some c =>
    obtain ⟨c', hc', hcc⟩ := getLast?_maskPart ha b.head? .code
    rw [hc'] at he
    obtain rfl := Option.some.inj he
    rcases hcc with rfl | rfl
    · exact h.isEdge_before _ ha
    · rfl

theorem QuietInsertion.isEdge_of_suffix {y : Text} (hy : y <:+ maskPart b.head? .code a) :
    ∀ e ∈ y.getLast?, isEdge e = true :=
  fun _ he => h.isEdge_of_mem_getLast? (mem_getLast?_of_suffix hy he)

theorem QuietInsertion.isEdge_of_shown {e : Char} (he : e ∈ ((regionAt a b).shown w).getLast?) :
    isEdge e = true := by
  unfold Region.shown at he
  split at he
  · exact h.last e he
  · obtain ⟨c, -, hc⟩ := List.mem_flatMap.1 (List.mem_of_getLast? he)
    unfold blanked at hc
    split at hc
    · rw [List.mem_singleton.1 hc]; rfl
    · rw [(List.mem_replicate.1 hc).2]; rfl

theorem QuietInsertion.isFlat_shown : IsFlat ((regionAt a b).shown w) := by
  unfold Region.shown
  split
  · exact h.flat
  · have hnot := @notMem_of_isBlank (w.flatMap blanked) isBlank_of_mem_flatMap_blanked
    exact ⟨hnot (by decide), hnot (by decide), hnot (by decide), hnot (by decide)⟩

theorem QuietInsertion.seam {φ : Phrase} (hφ : φ.IsFirm)
    (habsent : regionAt a b = .code → ∃ l ∈ φ.links, ∃ u, l.token = .word u ∧ ∃ x ∈ u, x ∉ w)
    {y z : Text} (hy : y <:+ maskPart b.head? .code a) (hz : z <+: maskFrom (regionAt a b) b) :
    φ.Seam y ((regionAt a b).shown w) z := by
  have hedge : ∀ e ∈ y.getLast?, isEdge e = true ∧ e ∈ (maskPart b.head? .code a).getLast? :=
    fun e he => ⟨h.isEdge_of_suffix hy e he, mem_getLast?_of_suffix hy he⟩
  have hfilled : ∀ l ∈ φ.links, l.token ≠ .word [] := by
    intro l hl
    obtain ⟨d, u, hd, -⟩ := hφ.marked l hl
    simp [hd]
  by_cases hc : regionAt a b = .code
  · rw [hc] at hz
    rw [hc, Region.shown, if_pos rfl]
    refine .of_absent hfilled (fun e he => ⟨hφ.excludes e (hedge e he).1, fun hb => ?_⟩)
      (fun e he => ⟨hφ.excludes e (h.last e he), fun hb => ?_⟩) (habsent hc)
    · have ha : e ∈ a.getLast? := by
        cases ha : a.getLast? with
        | none => rw [List.getLast?_eq_none_iff.1 ha] at hedge; cases (hedge e he).2
        | some c =>
          have hce := h.isEdge_before c ha
          have hq : c ≠ '\'' ∧ c ≠ '"' := by
            constructor <;> (rintro rfl; exact absurd hce (by decide))
          have := getLast?_maskPart_of_code ha (looksAhead_of_isEdge hce) hq hc
          rw [← this]; exact (hedge e he).2
      obtain ⟨h₁, h₂⟩ := h.breaks e ha hb
      have h₁ := h₁.settles.mask
      rw [maskFrom_inert_append .code h.inert, Region.shown, if_pos rfl] at h₁
      exact ⟨hφ.marked.stops h₁ (List.prefix_append_right_inj _ |>.2 hz), hφ.marked.stops h₂.settles.mask hz⟩
    · exact hφ.marked.stops (h.breaks_after e he hb).settles.mask hz
  · rw [Region.shown, if_neg hc]
    exact .of_blank hfilled (fun e he => hφ.excludes e (hedge e he).1) isBlank_of_mem_flatMap_blanked
      hφ.first

theorem QuietInsertion.isWordAt_eq_false {y : Text} (hy : y <:+ maskPart b.head? .code a) :
    isWordAt y.getLast? = false ∧ isWordAt (y ++ (regionAt a b).shown w).getLast? = false := by
  have hy' : isWordAt y.getLast? = false := by
    cases he : y.getLast? with
    | none => rfl
    | some e => exact isWord_of_isEdge (h.isEdge_of_suffix hy e he)
  refine ⟨hy', ?_⟩
  rw [List.getLast?_append]
  cases he : ((regionAt a b).shown w).getLast? with
  | none => simpa using hy'
  | some e => exact isWord_of_isEdge (h.isEdge_of_shown he)

theorem QuietInsertion.parameterList?_eq :
    parameterList? (mask (a ++ (w ++ b))) = (parameterList? (mask (a ++ b))).map
      (·.insert (maskPart b.head? .code a).length ((regionAt a b).shown w)) := by
  rw [h.mask_eq.1, h.mask_eq.2]
  refine parameterList?_insert (h.seam constructorName_isFirm (fun _ => ?_) List.suffix_rfl
    List.prefix_rfl) h.isFlat_shown (h.isWordAt_eq_false List.suffix_rfl).1
    (h.isWordAt_eq_false List.suffix_rfl).2
  exact ⟨⟨false, .word ['(']⟩, by simp [constructorName], _, rfl, '(', by simp, h.flat.1⟩

theorem QuietInsertion.declaresConstructor_eq :
    declaresConstructor (a ++ (w ++ b)) = declaresConstructor (a ++ b) := by
  simp [declaresConstructor, parameterSpan?, h.parameterList?_eq]

/-- A quiet insertion that brings no variable into code makes no difference to recognition. -/
theorem QuietInsertion.isTaken_eq {d : Dependency} (hd : d.IsNamed)
    (hw : regionAt a b = .code → '$' ∉ w) : d.isTaken (a ++ (w ++ b)) = d.isTaken (a ++ b) := by
  have hlist := h.parameterList?_eq
  rw [h.mask_eq.1, h.mask_eq.2] at hlist
  rw [d.isTaken_eq_any, d.isTaken_eq_any, h.mask_eq.1, h.mask_eq.2]
  refine d.any_isAmong_insert hlist (fun y z hy hz => ?_) fun y hy => h.isWordAt_eq_false hy
  exact h.seam (Dependency.pair_isFirm hd) (fun hc => ⟨⟨true, .word ('$' :: d.name)⟩,
    by simp [Dependency.pair], _, rfl, '$', by simp, hw hc⟩) hy hz

end

/-! ## Insertions into the parameter list -/

theorem byteLength_le_iff {s t x : Text} (hs : s <+: x) (ht : t <+: x) :
    byteLength s ≤ byteLength t ↔ s.length ≤ t.length := by
  have hmono : ∀ {u v : Text}, u <+: x → v <+: x → u.length ≤ v.length →
      byteLength u ≤ byteLength v := fun hu hv huv => by
    obtain ⟨r, rfl⟩ := List.prefix_of_prefix_length_le hu hv huv
    simp
  refine ⟨fun h => ?_, hmono hs ht⟩
  by_contra hlt
  obtain ⟨r, rfl⟩ := List.prefix_of_prefix_length_le ht hs (by omega)
  cases r with
  | nil => simp at hlt
  | cons c r =>
    have := c.utf8Size_pos
    simp at h; omega

/-- Whether a place of a source lies in the code of the class constructor's parameters. -/
def InParameters (a b : Text) : Prop :=
  regionAt a b = .code ∧ ∃ span, parameterSpan? (a ++ b) = some span ∧
    span.start ≤ byteLength a ∧ byteLength a ≤ span.stop

theorem inParameters_iff {a b : Text} :
    InParameters a b ↔ regionAt a b = .code ∧ ∃ p, parameterList? (mask (a ++ b)) = some p ∧
      p.before.length ≤ (maskPart b.head? .code a).length ∧
      (maskPart b.head? .code a).length ≤ p.before.length + p.inside.length := by
  have hspan : ∀ p, parameterList? (mask (a ++ b)) = some p →
      ((p.span.start ≤ byteLength a ∧ byteLength a ≤ p.span.stop) ↔
        p.before.length ≤ (maskPart b.head? .code a).length ∧
        (maskPart b.head? .code a).length ≤ p.before.length + p.inside.length) := by
    intro p hp
    obtain ⟨t, ht⟩ := parameterList?_eq_append hp
    have ha : maskPart b.head? .code a <+: mask (a ++ b) := ⟨_, (mask_append a b).symm⟩
    have hb : p.before <+: mask (a ++ b) := ⟨_, by rw [ht, List.append_assoc]⟩
    have hi : p.before ++ p.inside <+: mask (a ++ b) := ⟨_, ht.symm⟩
    rw [← byteLength_le_iff hb ha, ← List.length_append, ← byteLength_le_iff ha hi,
      byteLength_maskPart, byteLength_append]
    rfl
  simp only [InParameters, parameterSpan?, Option.map_eq_some_iff]
  constructor
  · intro h'
    obtain ⟨hc, span, ⟨p, hp, rfl⟩, hs⟩ := h'
    exact ⟨hc, p, hp, (hspan p hp).1 hs⟩
  · intro h'
    obtain ⟨hc, p, hp, hs⟩ := h'
    exact ⟨hc, p.span, ⟨p, hp, rfl⟩, (hspan p hp).2 hs⟩

/-- A dependency written into a source is recognised exactly where it was before, or in the code of the
parameters. -/
theorem QuietInsertion.isTaken_iff {d : Dependency} (hd : d.IsNamed) {a u v b : Text}
    (h : QuietInsertion a (u ++ (d.type ++ (' ' :: '$' :: (d.name ++ v)))) b) (hu : u ≠ [])
    (hv : v ≠ []) (hul : isWordAt u.getLast? = false) (hvh : isWordAt v.head? = false) :
    d.isTaken (a ++ (u ++ (d.type ++ (' ' :: '$' :: (d.name ++ v))) ++ b)) = true ↔
      d.isTaken (a ++ b) = true ∨ InParameters a b := by
  by_cases hc : regionAt a b = .code
  · rw [inParameters_iff]
    unfold Dependency.isTaken
    rw [h.parameterList?_eq]
    cases hp : parameterList? (mask (a ++ b)) with
    | none => simp
    | some p =>
      simp only [Option.map_some, Option.some.injEq, exists_eq_left', hc, true_and]
      by_cases hk : p.before.length ≤ (maskPart b.head? .code a).length ∧
          (maskPart b.head? .code a).length ≤ p.before.length + p.inside.length
      · rw [h.mask_eq.1] at hp
        obtain ⟨y, z, -, -, -, hq⟩ := parameterList?_inside_insert hp hk.1 hk.2 ((regionAt a b).shown
          (u ++ (d.type ++ (' ' :: '$' :: (d.name ++ v)))))
        have hwritten := Dependency.isAmong_of_written hd (a := y ++ u) (r := v ++ z)
          (by simpa [List.getLast?_append, List.getLast?_eq_some_getLast hu] using hul)
          (by simpa [List.head?_append, List.head?_eq_some_head hv] using hvh)
        rw [hc, Region.shown, if_pos rfl] at hq
        rw [Region.shown, if_pos rfl, hq]
        exact iff_of_true (by simpa using hwritten) (.inr hk)
      · rw [ParameterList.insert_outside hk, or_iff_left hk]
  · rw [h.isTaken_eq hd fun h => absurd h hc]
    simp [InParameters, hc]

end Wiring
