import Wiring.Proofs.Exhaustion

/-!
# The comma before another parameter

A constructor is found open in the source as it is written, so its last comma may stand in a line comment,
and then it separates nothing. Main statement: `Dependency.appendParameter_follows_comma_iff`.
-/

namespace Wiring

/-! ## The last character of code -/

def lastInk? (s : Text) : Option Char := s.reverse.find? (!isBlank ·)

theorem lastInk?_append (s t : Text) : lastInk? (s ++ t) = (lastInk? t).or (lastInk? s) := by
  simp [lastInk?, List.find?_append]

theorem lastInk?_append_blanks {t : Text} (ht : ∀ c ∈ t, isBlank c = true) (s : Text) :
    lastInk? (s ++ t) = lastInk? s := by
  have hnone : lastInk? t = none := by simpa [lastInk?] using ht
  rw [lastInk?_append, hnone, Option.none_or]

theorem isBlank_of_mem_maskFrom {w : Text} (hw : ∀ c ∈ w, isBlank c = true) (region : Region) :
    ∀ c ∈ maskFrom region w, isBlank c = true := by
  induction w generalizing region with
  | nil => exact nofun
  | cons d w ih =>
    intro c hc
    rw [maskFrom] at hc
    rcases List.mem_append.1 hc with hc | hc
    · split at hc
      · rw [List.mem_singleton.1 hc]
        exact hw d List.mem_cons_self
      · exact isBlank_of_mem_blanked hc
    · exact ih (fun c hc => hw c (List.mem_cons_of_mem d hc)) _ c hc

/-! ## Line comments -/

structure StartsLineComment (code comment rest : Text) : Prop where
  ne_nil : comment ≠ []
  code : regionAt code (comment ++ rest) = .code
  mark : ['/', '/'] <+: comment ++ rest ∨ ['#'] <+: comment ++ rest ∧ ¬ ['#', '['] <+: comment ++ rest
  line : '\n' ∉ comment

theorem step_eq_lineComment_iff {c : Char} {s : Text} : Region.code.step c s.head? = .lineComment ↔
    ['/', '/'] <+: c :: s ∨ ['#'] <+: c :: s ∧ ¬ ['#', '['] <+: c :: s := by
  have hslash : ['/', '/'] <+: c :: s ↔ c = '/' ∧ s.head? = some '/' := by
    cases s <;> simp [List.cons_prefix_cons, eq_comm]
  have hhash : ['#'] <+: c :: s ↔ c = '#' := by simp [List.cons_prefix_cons, eq_comm]
  have hattribute : ['#', '['] <+: c :: s ↔ c = '#' ∧ s.head? = some '[' := by
    cases s <;> simp [List.cons_prefix_cons, eq_comm]
  rw [hslash, hhash, hattribute, Region.step]
  by_cases h₁ : c = '/' ∧ s.head? = some '/'
  · exact iff_of_true (if_pos h₁) (.inl h₁)
  · rw [if_neg h₁]
    by_cases h₂ : c = '#' ∧ s.head? ≠ some '['
    · exact iff_of_true (if_pos h₂) (.inr ⟨h₂.1, fun h => h₂.2 h.2⟩)
    · refine iff_of_false (fun h => ?_) fun h => ?_
      · rw [if_neg h₂] at h
        split at h
        · cases h
        · split at h <;> cases h
      · obtain ⟨hc, hnext⟩ := h.resolve_left h₁
        exact h₂ ⟨hc, fun h => hnext ⟨hc, h⟩⟩

theorem regionAt_concat (a : Text) (e : Char) (y : Text) :
    regionAt (a ++ [e]) y = (regionAt a (e :: y)).step e y.head? := by
  simp [regionAt, regionFrom_append, regionFrom]

/-- What is in a line comment is the mark of one, or goes on with one. -/
theorem region_of_step_eq_lineComment {region : Region} {c : Char} {next : Option Char}
    (h : region.step c next = .lineComment) : region = .code ∨ region = .lineComment ∧ c ≠ '\n' := by
  cases region with
  | code => exact .inl rfl
  | lineComment =>
    refine .inr ⟨rfl, ?_⟩
    rintro rfl
    cases h
  | blockOpening => cases h
  | blockComment =>
    rw [Region.step] at h
    split at h <;> cases h
  | blockClosing => cases h
  | string q =>
    rw [Region.step] at h
    split at h
    · cases h
    · split at h <;> cases h
  | escaped q => cases h

theorem exists_startsLineComment {a y : Text} (h : regionAt a y = .lineComment) :
    ∃ v c, a = v ++ c ∧ StartsLineComment v c y := by
  induction a using List.reverseRecOn generalizing y with
  | nil => cases h
  | append_singleton a e ih =>
    rw [regionAt_concat] at h
    rcases region_of_step_eq_lineComment h with hcode | ⟨hcomment, he⟩
    · rw [hcode] at h
      refine ⟨a, [e], rfl, List.cons_ne_nil e [], hcode, step_eq_lineComment_iff.1 h, fun hmem => ?_⟩
      rw [← List.mem_singleton.1 hmem] at h
      exact absurd (step_eq_lineComment_iff.1 h) (by simp [List.cons_prefix_cons])
    · obtain ⟨v, c, rfl, hc⟩ := ih hcomment
      refine ⟨v, c ++ [e], List.append_assoc v c [e], ?_, ?_, ?_, ?_⟩
      · exact List.append_ne_nil_of_right_ne_nil c (List.cons_ne_nil e [])
      · simpa using hc.code
      · simpa using hc.mark
      · simpa using ⟨hc.line, he.symm⟩

/-- A text goes on in a region that none of its characters leaves. -/
theorem regionFrom_eq_self {region : Region} {w : Text} (hw : ∀ c ∈ w, ∀ next, region.step c next = region)
    (next : Option Char) : regionFrom next region w = region := by
  induction w with
  | nil => rfl
  | cons c w ih =>
    rw [regionFrom, hw c List.mem_cons_self, ih fun c hc => hw c (List.mem_cons_of_mem _ hc)]

theorem step_lineComment {c : Char} (hc : c ≠ '\n') (next : Option Char) :
    Region.lineComment.step c next = .lineComment := if_neg hc

theorem isBlank_of_mem_maskPart {c : Text} (hc : '\n' ∉ c) (next : Option Char) :
    ∀ e ∈ maskPart next .lineComment c, isBlank e = true := by
  induction c with
  | nil => exact nofun
  | cons d c ih =>
    obtain ⟨hd, hc⟩ := not_or.1 (mt List.mem_cons.2 hc)
    intro e he
    rw [maskPart, step_lineComment (Ne.symm hd)] at he
    rcases List.mem_append.1 he with he | he
    · exact isBlank_of_mem_blanked he
    · exact ih hc e he

section
variable {v c y : Text} (h : StartsLineComment v c y)
include h

theorem StartsLineComment.exists_cons : ∃ e z, c = e :: z ∧ '\n' ∉ z ∧
    regionFrom (some e) .code v = .code ∧ Region.code.step e (z.head?.or y.head?) = .lineComment := by
  obtain ⟨e, z, rfl⟩ := List.exists_cons_of_ne_nil h.ne_nil
  refine ⟨e, z, rfl, fun hz => h.line (List.mem_cons_of_mem e hz), h.code, ?_⟩
  rw [← List.head?_append]
  exact step_eq_lineComment_iff.2 h.mark

theorem StartsLineComment.regionAt_eq : regionAt (v ++ c) y = .lineComment := by
  obtain ⟨e, z, rfl, hz, hcode, hstep⟩ := h.exists_cons
  have hkept : ∀ d ∈ z, ∀ next, Region.lineComment.step d next = .lineComment := fun d hd =>
    step_lineComment fun h => hz (h ▸ hd)
  rw [regionAt, regionFrom_append, List.head?_cons, Option.some_or, hcode, regionFrom, hstep,
    regionFrom_eq_self hkept]

/-- A line comment is blank in the code of a source. -/
theorem StartsLineComment.lastInk?_maskPart :
    lastInk? (maskPart y.head? .code (v ++ c)) = lastInk? (maskPart (c ++ y).head? .code v) := by
  obtain ⟨e, z, rfl, hz, hcode, hstep⟩ := h.exists_cons
  rw [maskPart_append, List.head?_cons, Option.some_or, hcode]
  refine lastInk?_append_blanks (fun d hd => ?_) _
  rw [maskPart, hstep] at hd
  rcases List.mem_append.1 hd with hd | hd
  · exact isBlank_of_mem_blanked hd
  · exact isBlank_of_mem_maskPart hz _ d hd

end

/-! ## The comma of an open constructor -/

/-- A comma and white space lead into code from code, or from a line comment. -/
theorem region_of_comma {region : Region} {w : Text} {next : Option Char} (hallows : region.Allows (some ','))
    (hw : ∀ c ∈ w, isBlank c = true) (h : regionFrom next region (',' :: w) = .code) :
    region = .code ∨ region = .lineComment := by
  have hne : ∀ e, isBlank e = false → e ≠ ',' → ∀ c ∈ ',' :: w, c ≠ e := by
    rintro e he hcomma c hc rfl
    exact (List.mem_cons.1 hc).elim hcomma (notMem_of_isBlank hw he)
  have hstring : ∀ q, q = '\'' ∨ q = '"' → ∀ c ∈ ',' :: w, ∀ next, (Region.string q).step c next = .string q := by
    intro q hq c hc next
    have hquote : c ≠ q := by rcases hq with rfl | rfl <;> exact hne _ (by decide) (by decide) c hc
    rw [Region.step, if_neg hquote, if_neg (hne _ (by decide) (by decide) c hc)]
  cases region with
  | code => exact .inl rfl
  | lineComment => exact .inr rfl
  | blockOpening => cases hallows
  | blockClosing => cases hallows
  | blockComment =>
    have hkept : ∀ c ∈ ',' :: w, ∀ next, Region.blockComment.step c next = .blockComment := fun c hc _ =>
      if_neg fun hstar => hne '*' (by decide) (by decide) c hc hstar.1
    rw [regionFrom_eq_self hkept] at h
    cases h
  | string q =>
    rw [regionFrom_eq_self (hstring q hallows)] at h
    cases h
  | escaped q =>
    rw [regionFrom, Region.step,
      regionFrom_eq_self fun c hc => hstring q hallows c (List.mem_cons_of_mem _ hc)] at h
    cases h

def OpenConstructor.ClosesInCode (u : Text) (o : OpenConstructor) : Prop :=
  ∃ y, o.text = o.list ++ ')' :: y ∧ regionAt (u ++ o.list) (')' :: y) = .code

instance (u : Text) (o : OpenConstructor) : Decidable (o.ClosesInCode u) :=
  let y := o.text.drop (o.list.length + 1)
  decidable_of_iff (o.text = o.list ++ ')' :: y ∧ regionAt (u ++ o.list) (')' :: y) = .code) <| by
    constructor
    · exact fun h => ⟨y, h⟩
    · intro h
      obtain ⟨z, htext, hcode⟩ := h
      obtain rfl : y = z := by simp [y, htext]
      exact ⟨htext, hcode⟩

/-- Whether the comma of an open constructor behind a text is code, or stands in a line comment behind a
comma of the code. -/
def OpenConstructor.SeparatesInCode (u : Text) (o : OpenConstructor) : Prop :=
  regionAt (u ++ o.head) (o.comma ++ (o.lineBreak ++ o.after)) = .code ∨
    ∃ v c code, u ++ o.head = v ++ c ∧ StartsLineComment v c (o.comma ++ (o.lineBreak ++ o.after)) ∧
      slice? (mask (u ++ o.text)) ⟨0, byteLength v⟩ = some code ∧ lastInk? code = some ','

section
variable {u : Text} {o : OpenConstructor} (ho : o.Fits)
include ho

theorem OpenConstructor.Fits.mask_before : mask (u ++ o.before) =
    maskPart (o.comma ++ (o.lineBreak ++ o.after)).head? .code (u ++ o.head) ++
      maskFrom (regionAt (u ++ o.head) (o.comma ++ (o.lineBreak ++ o.after))) (o.comma ++ o.lineBreak) := by
  obtain ⟨i, hcomma, -⟩ := ho.comma
  rw [before, ← List.append_assoc, mask_append, regionAt, regionAt, hcomma]
  rfl

theorem OpenConstructor.Fits.exists_comma : ∃ i, o.comma ++ o.lineBreak = ',' :: i ∧
    ∀ c ∈ i, isBlank c = true := by
  obtain ⟨i, hcomma, hi⟩ := ho.comma
  refine ⟨i ++ o.lineBreak, by rw [hcomma, List.cons_append], fun c hc => ?_⟩
  exact (List.mem_append.1 hc).elim (fun hc => isBlank_of_isIndent (hi c hc)) (ho.lineBreak.isBlank c)

theorem OpenConstructor.Fits.lastInk?_of_code
    (h : regionAt (u ++ o.head) (o.comma ++ (o.lineBreak ++ o.after)) = .code) :
    lastInk? (mask (u ++ o.before)) = some ',' := by
  obtain ⟨i, hcomma, hi⟩ := ho.exists_comma
  have hcode : maskFrom .code (',' :: i) = [','] ++ maskFrom .code i := rfl
  rw [ho.mask_before, h, hcomma, hcode, ← List.append_assoc,
    lastInk?_append_blanks (isBlank_of_mem_maskFrom hi _), lastInk?_append]
  rfl

theorem OpenConstructor.Fits.lastInk?_of_lineComment
    (h : regionAt (u ++ o.head) (o.comma ++ (o.lineBreak ++ o.after)) = .lineComment) :
    lastInk? (mask (u ++ o.before)) =
      lastInk? (maskPart (o.comma ++ (o.lineBreak ++ o.after)).head? .code (u ++ o.head)) := by
  obtain ⟨i, hcomma, hi⟩ := ho.exists_comma
  have hcomment : maskFrom .lineComment (',' :: i) = blanked ',' ++ maskFrom .lineComment i := rfl
  rw [ho.mask_before, h, hcomma, hcomment, ← List.append_assoc,
    lastInk?_append_blanks (isBlank_of_mem_maskFrom hi _),
    lastInk?_append_blanks fun _ => isBlank_of_mem_blanked]

theorem OpenConstructor.Fits.region_of_closesInCode (h : o.ClosesInCode u) :
    regionAt (u ++ o.head) (o.comma ++ (o.lineBreak ++ o.after)) = .code ∨
      regionAt (u ++ o.head) (o.comma ++ (o.lineBreak ++ o.after)) = .lineComment := by
  obtain ⟨i, hcomma, hi⟩ := ho.exists_comma
  obtain ⟨y, -, hcode⟩ := h
  have hlist : u ++ o.list = u ++ o.head ++ ',' :: (i ++ o.closing.takeWhile isIndent) := by
    rw [list, before, hcomma]
    simp
  have hnext : (o.comma ++ (o.lineBreak ++ o.after)).head? = some ',' := by
    rw [← List.append_assoc, hcomma]
    rfl
  rw [hlist, regionAt, regionFrom_append] at hcode
  rw [regionAt, hnext]
  refine region_of_comma (regionFrom_allows trivial) (fun c hc => ?_) hcode
  exact (List.mem_append.1 hc).elim (hi c) fun hc => isBlank_of_isIndent (List.mem_takeWhile_imp hc)

theorem OpenConstructor.Fits.lastInk?_eq_comma_iff (h : o.ClosesInCode u) :
    lastInk? (mask (u ++ o.before)) = some ',' ↔ o.SeparatesInCode u := by
  have htext : ∀ {v c : Text}, u ++ o.head = v ++ c →
      u ++ o.text = v ++ (c ++ (o.comma ++ (o.lineBreak ++ o.after))) := by
    intro v c heq
    rw [OpenConstructor.text, ← List.append_assoc, heq, List.append_assoc]
    rfl
  constructor
  · intro hlast
    rcases ho.region_of_closesInCode h with hcode | hcomment
    · exact .inl hcode
    · obtain ⟨v, c, heq, hc⟩ := exists_startsLineComment hcomment
      rw [ho.lastInk?_of_lineComment hcomment, heq, hc.lastInk?_maskPart] at hlast
      exact .inr ⟨v, c, _, heq, hc, htext heq ▸ slice?_maskPart v _, hlast⟩
  · intro hseparates
    rcases hseparates with hcode | ⟨v, c, code, heq, hc, hslice, hlast⟩
    · exact ho.lastInk?_of_code hcode
    · have hcomment := hc.regionAt_eq
      rw [← heq] at hcomment
      rw [htext heq, slice?_maskPart, Option.some.injEq] at hslice
      rw [ho.lastInk?_of_lineComment hcomment, heq, hc.lastInk?_maskPart, hslice, hlast]

end

/-- A parameter that is added to a list which is closed in code follows a comma exactly when the comma that
it was read from is code, or the line comment with it follows one. -/
theorem Dependency.appendParameter_follows_comma_iff (d : Dependency) {s t : Text}
    (h : d.appendParameter s = some t) :
    ∃ u o code, firstOpen? s = some (u, o) ∧ s = u ++ o.before ++ o.after ∧
      t = u ++ o.before ++ (d.line o ++ o.after) ∧
      slice? (mask s) ⟨0, byteLength (u ++ o.before)⟩ = some code ∧
      (o.ClosesInCode u → (lastInk? code = some ',' ↔ o.SeparatesInCode u)) := by
  rw [appendParameter_eq] at h
  obtain ⟨⟨u, o⟩, ho, rfl⟩ := Option.map_eq_some_iff.1 h
  obtain ⟨hs, hlaid, -⟩ := firstOpen?_eq_some_iff.1 ho
  have hs : s = u ++ o.before ++ o.after := by rw [hs, ← o.before_append_after, List.append_assoc]
  have hlast := looksAhead_of_lineEnd (hlaid.fits.getLast?_before u)
  refine ⟨u, o, mask (u ++ o.before), ho, hs, ?_, hs ▸ slice?_mask hlast o.after,
    hlaid.fits.lastInk?_eq_comma_iff⟩
  rw [append_parameter, List.append_assoc]

theorem Dependency.appendParameter_follows_comma_openController :
    ∃ t, ({} : Dependency).appendParameter openController = some t ∧
      ∃ u o code, firstOpen? openController = some (u, o) ∧ openController = u ++ o.before ++ o.after ∧
        t = u ++ o.before ++ (({} : Dependency).line o ++ o.after) ∧
        slice? (mask openController) ⟨0, byteLength (u ++ o.before)⟩ = some code ∧
        (o.ClosesInCode u → (lastInk? code = some ',' ↔ o.SeparatesInCode u)) ∧
        o.ClosesInCode u ∧ lastInk? code = some ',' ∧ o.SeparatesInCode u := by
  have hsome : (({} : Dependency).appendParameter openController).isSome = true := by decide +kernel
  have hfound : (firstOpen? openController).all (fun p => decide (p.2.ClosesInCode p.1) &&
      (slice? (mask openController) ⟨0, byteLength (p.1 ++ p.2.before)⟩).all fun code =>
        lastInk? code == some ',') = true := by decide +kernel
  obtain ⟨t, ht⟩ := Option.isSome_iff_exists.1 hsome
  obtain ⟨u, o, code, ho, hs, hput, hcode, hiff⟩ := Dependency.appendParameter_follows_comma_iff {} ht
  rw [ho, Option.all_some, hcode, Option.all_some, Bool.and_eq_true, decide_eq_true_eq, beq_iff_eq] at hfound
  obtain ⟨hcloses, hlast⟩ := hfound
  exact ⟨t, ht, u, o, code, ho, hs, hput, hcode, hiff, hcloses, hlast, (hiff hcloses).1 hlast⟩

def annotatedController : Text := joinWith ['\n'] [
  "class BadgeController extends AbstractController".toList,
  "\x7b".toList,
  "    public function __construct(".toList,
  "        private readonly BadgeRepository $badges // and soon the clock,".toList,
  "    ) \x7b".toList,
  "    \x7d".toList,
  "\x7d".toList,
  []]

/-- Behind a comma in a line comment the parameter follows the last one without a comma between them. -/
theorem Dependency.not_appendParameter_follows_comma_annotatedController :
    ¬ ∀ (d : Dependency) (s t u : Text) (o : OpenConstructor) (code : Text), d.IsNamed →
      d.appendParameter s = some t → firstOpen? s = some (u, o) → o.ClosesInCode u →
      slice? (mask s) ⟨0, byteLength (u ++ o.before)⟩ = some code → lastInk? code = some ',' := by
  intro hall
  have hfound : ((firstOpen? annotatedController).any fun p => decide (p.2.ClosesInCode p.1) &&
      (slice? (mask annotatedController) ⟨0, byteLength (p.1 ++ p.2.before)⟩).any fun code =>
        lastInk? code == some 's') = true := by decide +kernel
  obtain ⟨⟨u, o⟩, ho, hchecks⟩ := (Option.any_eq_true _ _).1 hfound
  rw [Bool.and_eq_true, decide_eq_true_eq] at hchecks
  obtain ⟨code, hcode, hlast⟩ := (Option.any_eq_true _ _).1 hchecks.2
  have happend : ({} : Dependency).appendParameter annotatedController =
      some (u ++ o.append ({} : Dependency).parameter) := by rw [appendParameter_eq, ho, Option.map_some]
  have hcomma := hall {} _ _ u o code (by decide) happend ho hchecks.1 hcode
  rw [hcomma] at hlast
  cases hlast

end Wiring
