import Wiring.Proofs.Lexical
import Wiring.Source.Masking
import Wiring.Text.Blank

/-!
# Masking joined texts

The region after the first part of a joined text depends on that part and the character after it.
Main statement: `mask_insert`. An insertion without delimiters is masked as what stands around it,
and the masking of the rest stays as it is.
-/

namespace Wiring

def regionFrom (next : Option Char) : Region → Text → Region
  | region, [] => region
  | region, c :: s => regionFrom next (region.step c (s.head?.or next)) s

/-- A masked text that a character follows. -/
def maskPart (next : Option Char) (region : Region) : Text → Text
  | [] => []
  | c :: s =>
    let after := region.step c (s.head?.or next)
    (if region.keeps after then [c] else blanked c) ++ maskPart next after s

def regionAt (before after : Text) : Region := regionFrom after.head? .code before

theorem maskFrom_append (region : Region) (s t : Text) :
    maskFrom region (s ++ t) =
      maskPart t.head? region s ++ maskFrom (regionFrom t.head? region s) t := by
  induction s generalizing region with
  | nil => rfl
  | cons c s ih => simp only [List.cons_append, maskFrom, maskPart, regionFrom, List.head?_append, ih,
      List.append_assoc]

theorem mask_append (s t : Text) :
    mask (s ++ t) = maskPart t.head? .code s ++ maskFrom (regionAt s t) t := maskFrom_append _ _ _

theorem maskPart_append (next : Option Char) (region : Region) (s t : Text) :
    maskPart next region (s ++ t) = maskPart (t.head?.or next) region s ++
      maskPart next (regionFrom (t.head?.or next) region s) t := by
  induction s generalizing region with
  | nil => rfl
  | cons c s ih => simp only [List.cons_append, maskPart, regionFrom, List.head?_append,
      Option.or_assoc, ih, List.append_assoc]

theorem regionFrom_append (next : Option Char) (region : Region) (s t : Text) :
    regionFrom next region (s ++ t) =
      regionFrom next (regionFrom (t.head?.or next) region s) t := by
  induction s generalizing region with
  | nil => rfl
  | cons c s ih => simp only [List.cons_append, regionFrom, List.head?_append, Option.or_assoc, ih]

theorem byteLength_maskPart (next : Option Char) (region : Region) (s : Text) :
    byteLength (maskPart next region s) = byteLength s := by
  induction s generalizing region with
  | nil => rfl
  | cons c s ih =>
    simp only [maskPart, byteLength_append, byteLength_cons, ih]
    split <;> simp [byteLength_blanked]

/-! ## The character after a text -/

/-- Whether a character may begin or end a delimiter or an escape, so that what follows counts. -/
def looksAhead (c : Char) : Bool := c == '/' || c == '#' || c == '*' || c == '\\'

theorem Region.step_congr {c : Char} (hc : looksAhead c = false) (region : Region)
    (next next' : Option Char) : region.step c next = region.step c next' := by
  simp only [looksAhead, Bool.or_eq_false_iff, beq_eq_false_iff_ne] at hc
  obtain ⟨⟨⟨h₁, h₂⟩, h₃⟩, -⟩ := hc
  cases region <;> simp [step, h₁, h₂, h₃]

theorem regionFrom_congr {s : Text} (hs : ∀ e ∈ s.getLast?, looksAhead e = false)
    (next next' : Option Char) (region : Region) :
    regionFrom next region s = regionFrom next' region s := by
  induction s generalizing region with
  | nil => rfl
  | cons c s ih =>
    cases s with
    | nil => exact Region.step_congr (hs c (by simp)) region next next'
    | cons d s =>
      simp only [regionFrom, List.head?_cons, Option.some_or]
      exact ih (fun e he => hs e (by simpa [List.getLast?_cons_cons] using he)) _

theorem maskPart_congr {s : Text} (hs : ∀ e ∈ s.getLast?, looksAhead e = false)
    (next next' : Option Char) (region : Region) :
    maskPart next region s = maskPart next' region s := by
  induction s generalizing region with
  | nil => rfl
  | cons c s ih =>
    cases s with
    | nil =>
      simp only [maskPart, List.head?_nil, Option.none_or,
        Region.step_congr (hs c (by simp)) region next next']
      rfl
    | cons d s =>
      simp only [maskPart, List.head?_cons, Option.some_or]
      congr 1
      exact ih (fun e he => hs e (by simpa [List.getLast?_cons_cons] using he)) _

/-! ## Comments and strings -/

def Mark.char : Mark → Char
  | slash => '/'
  | star => '*'
  | hash => '#'
  | bracket => '['
  | single => '\''
  | double => '"'
  | backslash => '\\'
  | newline => '\n'

def characters : Alphabet Char where
  mark := ⟨Mark.char, by intro a b; cases a <;> cases b <;> decide⟩
  blank := blanked

theorem maskFrom_lineComment {x : Text} (hx : '\n' ∉ x) (t : Text) :
    maskFrom .lineComment (x ++ t) = x.flatMap blanked ++ maskFrom .lineComment t := by
  induction x with
  | nil => rfl
  | cons c x ih =>
    obtain ⟨hc, hx⟩ := not_or.1 (mt List.mem_cons.2 hx)
    simp only [List.cons_append, maskFrom, Region.step, Ne.symm hc, if_false, Region.keeps,
      Bool.false_eq_true, ih hx, List.flatMap_cons, List.append_assoc]

theorem maskFrom_blockComment {x t : Text} (hx : ¬ ['*', '/'] <:+: x)
    (ht : x.getLast? = some '*' → t.head? ≠ some '/') :
    maskFrom .blockComment (x ++ t) = x.flatMap blanked ++ maskFrom .blockComment t := by
  induction x with
  | nil => rfl
  | cons c x ih =>
    have hstep : ¬ (c = '*' ∧ (x ++ t).head? = some '/') := by
      rintro ⟨rfl, hnext⟩
      cases x with
      | nil => exact ht rfl hnext
      | cons d x =>
        obtain rfl := Option.some.inj hnext
        exact hx ⟨[], x, rfl⟩
    have ih := ih (fun h => hx (h.trans (List.suffix_cons _ _).isInfix)) fun hstar =>
      ht (by rw [List.getLast?_cons, hstar]; rfl)
    simp only [List.cons_append, maskFrom, Region.step, hstep, if_false, Region.keeps,
      Bool.false_eq_true, ih, List.flatMap_cons, List.append_assoc]

theorem maskFrom_string {q : Char} {closed : Bool} {x t : Text}
    (hq : q ≠ '\\') (hx : StringBody characters q closed x) (ht : closed = false → t = []) :
    maskFrom (.string q) (x ++ t) = x.flatMap blanked ++ maskFrom (.string q) t := by
  induction hx with
  | nil => rfl
  | plain hquote hescape _ ih =>
    have hescape : _ ≠ '\\' := hescape
    simp only [List.cons_append, maskFrom, Region.step, hquote, hescape, if_false, Region.keeps,
      Bool.false_eq_true, ih, List.flatMap_cons, List.append_assoc]
  | @escaped c x _ ih =>
    show maskFrom (.string q) ('\\' :: c :: (x ++ t)) = ('\\' :: c :: x).flatMap blanked ++ _
    simp only [maskFrom, Region.step, hq.symm, if_false, if_true, Region.keeps,
      Bool.false_eq_true, ih, List.flatMap_cons, List.append_assoc]
  | last hclosed =>
    rw [ht hclosed]
    show maskFrom (.string q) ['\\'] = ['\\'].flatMap blanked ++ _
    simp only [maskFrom, Region.step, hq.symm, if_false, if_true, Region.keeps,
      Bool.false_eq_true, List.flatMap_cons, List.flatMap_nil, List.append_nil]

/-! ## Texts without delimiters -/

/-- Whether a text has no character that opens or closes a comment or a string, and ends in none
that looks ahead. -/
def IsInert (w : Text) : Prop :=
  (∀ c ∈ w, c ≠ '/' ∧ c ≠ '#' ∧ c ≠ '\'' ∧ c ≠ '"') ∧ ∀ e ∈ w.getLast?, looksAhead e = false

theorem IsInert.tail {c : Char} {w : Text} (h : IsInert (c :: w)) : IsInert w := by
  refine ⟨fun d hd => h.1 d (by simp [hd]), fun e he => h.2 e ?_⟩
  cases w with
  | nil => cases he
  | cons d w => simpa [List.getLast?_cons_cons] using he

def Region.shown (region : Region) (w : Text) : Text :=
  if region = .code then w else w.flatMap blanked

theorem byteLength_shown (region : Region) (w : Text) :
    byteLength (region.shown w) = byteLength w := by
  unfold Region.shown
  split
  · rfl
  · induction w with
    | nil => rfl
    | cons c w ih => rw [List.flatMap_cons, byteLength_append, byteLength_blanked, ih, byteLength_cons]

theorem eq_of_mem_blanked {c d : Char} (h : d ∈ blanked c) : d = '\n' ∨ d = ' ' := by
  unfold blanked at h
  split at h
  · exact .inl (List.mem_singleton.1 h)
  · exact .inr (List.mem_replicate.1 h).2

theorem isBlank_of_mem_blanked {c d : Char} (h : d ∈ blanked c) : isBlank d = true := by
  rcases eq_of_mem_blanked h with rfl | rfl <;> decide

theorem isBlank_of_mem_flatMap_blanked {w : Text} : ∀ c ∈ w.flatMap blanked, isBlank c = true := by
  intro c hc
  obtain ⟨d, -, hd⟩ := List.mem_flatMap.1 hc
  exact isBlank_of_mem_blanked hd

/-- A region of code, or of a comment or a string that goes on over line breaks. -/
inductive Region.IsOpen : Region → Prop
  | code : IsOpen .code
  | blockComment : IsOpen .blockComment
  | string {q : Char} (hq : q = '\'' ∨ q = '"') : IsOpen (.string q)

theorem maskFrom_code {w : Text} (hw : IsInert w) (s : Text) :
    maskFrom .code (w ++ s) = w ++ maskFrom .code s := by
  induction w with
  | nil => rfl
  | cons c w ih =>
    obtain ⟨h₁, h₂, h₃, h₄⟩ := hw.1 c (by simp)
    have hstep : ∀ n, Region.code.step c n = .code := fun n => by simp [Region.step, h₁, h₂, h₃, h₄]
    simp only [List.cons_append, maskFrom, hstep, Region.keeps, if_true, ih hw.tail, List.nil_append]

theorem IsInert.stringBody {q : Char} (hq : q = '\'' ∨ q = '"') :
    ∀ {w : Text}, IsInert w → StringBody characters q true w
  | [], _ => .nil
  | c :: w, hw => by
    have hquote : c ≠ q := by
      obtain ⟨-, -, h₃, h₄⟩ := hw.1 c (by simp)
      rcases hq with rfl | rfl <;> assumption
    by_cases hescape : c = '\\'
    · subst hescape
      cases w with
      | nil => exact absurd (hw.2 '\\' rfl) (by decide)
      | cons d w => exact .escaped (stringBody hq hw.tail.tail)
    · exact .plain hquote hescape (stringBody hq hw.tail)

theorem maskFrom_inert_append {region : Region} (hr : region.IsOpen) {w : Text} (hw : IsInert w)
    (s : Text) : maskFrom region (w ++ s) = region.shown w ++ maskFrom region s := by
  cases hr with
  | code => exact maskFrom_code hw s
  | blockComment =>
    refine maskFrom_blockComment (fun h => ?_) fun hstar => absurd (hw.2 '*' hstar) (by decide)
    exact (hw.1 '/' (h.subset (by simp))).1 rfl
  | string hq =>
    exact maskFrom_string (by rcases hq with rfl | rfl <;> decide) (hw.stringBody hq) nofun

/-! ## The region at a place -/

def Region.Allows (next : Option Char) : Region → Prop
  | .blockOpening => next = some '*'
  | .blockClosing => next = some '/'
  | .string q | .escaped q => q = '\'' ∨ q = '"'
  | _ => True

theorem Region.allows_step {region : Region} {c : Char} (h : region.Allows (some c))
    (next : Option Char) : (region.step c next).Allows next := by
  cases region with
  | code =>
    simp only [step]
    split
    · trivial
    · split
      · trivial
      · split
        · rename_i h; exact h.2
        · split
          · rename_i h; exact h
          · trivial
  | lineComment => simp only [step]; split <;> trivial
  | blockOpening => trivial
  | blockComment =>
    simp only [step]
    split
    · rename_i h; exact h.2
    · trivial
  | blockClosing => trivial
  | string q =>
    simp only [step]
    split
    · trivial
    · split <;> exact h
  | escaped q => exact h

theorem regionFrom_allows {region : Region} {s : Text} {next : Option Char}
    (h : region.Allows (s.head?.or next)) : (regionFrom next region s).Allows next := by
  induction s generalizing region with
  | nil => exact h
  | cons c s ih => exact ih (Region.allows_step h _)

/-- After a character that does not look ahead the region is an open one or a line comment. -/
theorem regionAt_cases {a : Text} (ha : ∀ e ∈ a.getLast?, looksAhead e = false) (b : Text) :
    (regionAt a b).IsOpen ∨ regionAt a b = .lineComment ∧ ∀ e ∈ a.getLast?, e ≠ '\n' := by
  rcases List.eq_nil_or_concat a with rfl | ⟨a, e, rfl⟩
  · exact .inl .code
  · have he := ha e (by simp)
    simp only [looksAhead, Bool.or_eq_false_iff, beq_eq_false_iff_ne] at he
    obtain ⟨⟨⟨h₁, h₂⟩, h₃⟩, h₄⟩ := he
    have hallows : (regionFrom (some e) .code a).Allows (some e) := regionFrom_allows trivial
    rw [regionAt, List.concat_eq_append, regionFrom_append]
    simp only [List.head?_cons, Option.some_or, regionFrom, List.head?_nil, Option.none_or,
      List.getLast?_append, List.getLast?_singleton, Option.mem_some_iff]
    cases hr : regionFrom (some e) .code a with
    | code =>
      simp only [Region.step, h₁, h₂, false_and, if_false]
      split
      · rename_i hq; exact .inl (.string hq)
      · exact .inl .code
    | lineComment =>
      simp only [Region.step]
      split
      · exact .inl .code
      · exact .inr ⟨rfl, by rintro _ rfl; assumption⟩
    | blockOpening => exact .inl .blockComment
    | blockComment => simp only [Region.step, h₃, false_and, if_false]; exact .inl .blockComment
    | blockClosing => exact .inl .code
    | string q =>
      rw [hr] at hallows
      simp only [Region.step, h₄, if_false]
      split
      · exact .inl .code
      · exact .inl (.string hallows)
    | escaped q =>
      rw [hr] at hallows
      exact .inl (.string hallows)

theorem looksAhead_of_lineEnd {a : Text} (ha : a.getLast? = some '\n') :
    ∀ e ∈ a.getLast?, looksAhead e = false := by
  intro e he
  rw [ha] at he
  obtain rfl := Option.some.inj he
  decide

/-- No line comment goes on behind the end of its line. -/
theorem regionAt_isOpen_of_lineEnd {a : Text} (ha : a.getLast? = some '\n') (b : Text) :
    (regionAt a b).IsOpen :=
  (regionAt_cases (looksAhead_of_lineEnd ha) b).resolve_right fun h => h.2 '\n' ha rfl

/-- What an insertion without delimiters looks like when it is masked. -/
theorem mask_insert {a w b : Text} (ha : ∀ e ∈ a.getLast?, looksAhead e = false) (hw : IsInert w)
    (hr : (regionAt a b).IsOpen) :
    mask (a ++ (w ++ b)) = maskPart b.head? .code a ++
      ((regionAt a b).shown w ++ maskFrom (regionAt a b) b) := by
  have hregion : regionAt a (w ++ b) = regionAt a b := regionFrom_congr ha _ _ _
  rw [mask_append, hregion, maskPart_congr ha _ b.head?, maskFrom_inert_append hr hw]

theorem getLast?_maskPart {s : Text} {e : Char} (hs : s.getLast? = some e) (next : Option Char)
    (region : Region) : ∃ e', (maskPart next region s).getLast? = some e' ∧ (e' = e ∨ e' = ' ') := by
  obtain ⟨s, rfl⟩ := List.getLast?_eq_some_iff.1 hs
  rw [maskPart_append]
  simp only [maskPart, List.append_nil, List.getLast?_append]
  split
  · exact ⟨e, rfl, .inl rfl⟩
  · unfold blanked
    split
    · rename_i he; exact ⟨'\n', rfl, .inl he.symm⟩
    · refine ⟨' ', ?_, .inr rfl⟩
      have : e.utf8Size ≠ 0 := Nat.pos_iff_ne_zero.1 e.utf8Size_pos
      simp [List.getLast?_replicate, this]

theorem getLast?_maskPart_of_code {s b : Text} {e : Char} (hs : s.getLast? = some e)
    (he : looksAhead e = false) (hq : e ≠ '\'' ∧ e ≠ '"') (hcode : regionAt s b = .code) :
    (maskPart b.head? .code s).getLast? = some e := by
  obtain ⟨s, rfl⟩ := List.getLast?_eq_some_iff.1 hs
  have hallows : (regionFrom (some e) .code s).Allows (some e) := regionFrom_allows trivial
  rw [regionAt, regionFrom_append] at hcode
  rw [maskPart_append]
  simp only [List.head?_cons, Option.some_or, regionFrom, List.head?_nil, Option.none_or] at hcode ⊢
  simp only [maskPart, List.head?_nil, Option.none_or, hcode, List.append_nil, List.getLast?_append]
  cases hr : regionFrom (some e) .code s with
  | code => rfl
  | lineComment =>
    rw [hr] at hcode
    simp only [Region.step, ite_eq_left_iff, reduceCtorEq, imp_false, Decidable.not_not] at hcode
    simp [Region.keeps, hcode, blanked]
  | blockOpening => simp [hr, Region.step] at hcode
  | blockComment => rw [hr] at hcode; simp only [Region.step] at hcode; split at hcode <;> cases hcode
  | blockClosing =>
    rw [hr] at hallows
    rw [Option.some.inj hallows] at he
    exact absurd he (by decide)
  | string q =>
    rw [hr] at hallows hcode
    simp only [Region.step] at hcode
    split at hcode
    · subst q
      rcases hallows with h | h
      · exact absurd h hq.1
      · exact absurd h hq.2
    · split at hcode <;> cases hcode
  | escaped q => simp [hr, Region.step] at hcode

end Wiring
