import Wiring.Proofs.Blanking
import Wiring.Source.ClassConstructor

/-!
# Masking masked text

Masked text has neither comments nor escapes, so that a second reading goes through code where the first
one went through comments, and through strings where the first one did. Main statement: `mask_projects`.
A masked text is a text again, with each character whole or blank as a whole, and masking it once more
changes nothing.
-/

namespace Wiring

def Region.afterMasking : Region → Region
  | .string quote | .escaped quote => .string quote
  | _ => .code

theorem Region.Allows.isOpen_afterMasking {region : Region} {next : Option Char}
    (h : region.Allows next) : region.afterMasking.IsOpen := by
  cases region with
  | string _ | escaped _ => exact .string h
  | _ => exact .code

theorem Region.afterMasking_step {region : Region} {c : Char} {next : Option Char}
    (h : region.keeps (region.step c next) = false) :
    (region.step c next).afterMasking = region.afterMasking := by
  cases region with
  | code | lineComment | blockComment | string =>
    simp only [step] at h ⊢
    split_ifs at h ⊢ <;> first | rfl | cases h
  | blockOpening | blockClosing | escaped => rfl

/-! ## Blanked characters -/

theorem blanked_ne_nil (c : Char) : blanked c ≠ [] := by
  intro h
  have hsize := byteLength_blanked c
  rw [h] at hsize
  exact absurd hsize c.utf8Size_pos.ne

theorem isInert_blanked (c : Char) : IsInert (blanked c) := by
  refine ⟨fun d hd => ?_, fun d hd => ?_⟩
  · rcases eq_of_mem_blanked hd with rfl | rfl <;> decide
  · rcases eq_of_mem_blanked (List.mem_of_getLast? hd) with rfl | rfl <;> decide

theorem Region.shown_blanked (region : Region) (c : Char) : region.shown (blanked c) = blanked c := by
  have hblanked : ∀ d ∈ blanked c, blanked d = [d] := by
    intro d hd
    rcases eq_of_mem_blanked hd with rfl | rfl <;> rfl
  unfold Region.shown
  split
  · rfl
  · rw [List.flatMap_congr hblanked, List.flatMap_singleton']

/-! ## Reading masked text -/

theorem Region.step_code_eq_code_iff {c : Char} {next : Option Char} :
    Region.code.step c next = .code ↔ (c = '/' → next ≠ some '/' ∧ next ≠ some '*') ∧
      (c = '#' → next = some '[') ∧ c ≠ '\'' ∧ c ≠ '"' := by
  unfold step
  grind

/-- What stands before masked code opens nothing that it did not open before the code as it was. -/
theorem Region.step_code_maskFrom {c : Char} {s : Text} (h : Region.code.step c s.head? = .code) :
    Region.code.step c (maskFrom .code s).head? = .code := by
  cases s with
  | nil => exact h
  | cons d s =>
    cases hkeeps : Region.code.keeps (Region.code.step d s.head?) with
    | true =>
      simp only [maskFrom, hkeeps, if_true]
      exact h
    | false =>
      obtain ⟨e, t, ht⟩ := List.exists_cons_of_ne_nil (blanked_ne_nil d)
      have he := eq_of_mem_blanked (ht ▸ List.mem_cons_self)
      -- the bracket of an attribute is code
      have hd : d ≠ '[' := by
        intro hd
        subst hd
        cases hkeeps
      obtain ⟨-, hhash, hquote⟩ := Region.step_code_eq_code_iff.1 h
      simp only [maskFrom, hkeeps, Bool.false_eq_true, if_false, ht, List.cons_append, List.head?_cons]
      refine Region.step_code_eq_code_iff.2 ⟨fun _ => ?_, fun hc => ?_, hquote⟩
      · rcases he with rfl | rfl <;> decide
      · exact absurd (Option.some.inj (hhash hc)) hd

theorem Region.afterMasking_step_of_keeps {region : Region} {c : Char} {s : Text}
    (h : region.keeps (region.step c s.head?) = true) :
    region.afterMasking.step c (maskFrom (region.step c s.head?) s).head? =
        (region.step c s.head?).afterMasking ∧
      region.afterMasking.keeps (region.step c s.head?).afterMasking = true := by
  cases region with
  | code =>
    cases hstep : Region.code.step c s.head? with
    | code => exact ⟨step_code_maskFrom hstep, rfl⟩
    | string q =>
      have hq : c = q ∧ (c = '\'' ∨ c = '"') := by
        unfold step at hstep
        grind
      obtain ⟨rfl, rfl | rfl⟩ := hq <;> exact ⟨rfl, rfl⟩
    | lineComment | blockOpening | blockComment | blockClosing | escaped =>
      rw [hstep] at h
      cases h
  | string q =>
    have hq : c = q := by
      by_contra hq
      simp only [step, hq, if_false] at h
      split at h <;> cases h
    simp [step, hq, afterMasking, keeps]
  | lineComment | blockOpening | blockComment | blockClosing | escaped => cases h

theorem maskFrom_afterMasking {region : Region} {s : Text} (h : region.Allows s.head?) :
    maskFrom region.afterMasking (maskFrom region s) = maskFrom region s := by
  induction s generalizing region with
  | nil => rfl
  | cons c s ih =>
    have hrest := ih (Region.allows_step h s.head?)
    cases hkeeps : region.keeps (region.step c s.head?) with
    | false =>
      simp only [maskFrom, hkeeps, Bool.false_eq_true, if_false]
      rw [Region.afterMasking_step hkeeps] at hrest
      rw [maskFrom_inert_append h.isOpen_afterMasking (isInert_blanked c), Region.shown_blanked, hrest]
    | true =>
      simp only [maskFrom, hkeeps, if_true, List.singleton_append,
        Region.afterMasking_step_of_keeps hkeeps, hrest]

theorem mask_mask (s : Text) : mask (mask s) = mask s := by
  have hcode : Region.code.Allows s.head? := trivial
  exact maskFrom_afterMasking hcode

/-! ## Characters as a whole -/

/-- The bytes of a character as they are, or each of them blank. -/
def Shows (c : Char) (shown : Bytes) : Prop :=
  shown = utf8 [c] ∨ shown = (utf8 [c]).flatMap bytes.blank

theorem utf8_blanked (c : Char) : utf8 (blanked c) = (utf8 [c]).flatMap bytes.blank := by
  rw [utf8_singleton]
  exact utf8Encoding.code_blank c

theorem exists_shows_maskFrom (region : Region) (s : Text) :
    ∃ shown, List.Forall₂ Shows s shown ∧ utf8 (maskFrom region s) = shown.flatten := by
  induction s generalizing region with
  | nil => exact ⟨[], .nil, rfl⟩
  | cons c s ih =>
    obtain ⟨shown, hshows, hshown⟩ := ih (region.step c s.head?)
    simp only [maskFrom, utf8_append, hshown]
    split
    · exact ⟨utf8 [c] :: shown, .cons (.inl rfl) hshows, rfl⟩
    · exact ⟨utf8 (blanked c) :: shown, .cons (.inr (utf8_blanked c)) hshows, rfl⟩

/-- The bytes of the comments and of what strings have between their quotes are blanked one by one, and
what comes out is the encoding of a text. -/
theorem mask_projects (s : Text) :
    (∃ items, Factors bytes (utf8 s) items ∧
      decodeUtf8 (items.flatMap (Item.masked bytes)) = .ok (mask s)) ∧
    (utf8 (mask s)).length = (utf8 s).length ∧
    (∃ shown, List.Forall₂ Shows s shown ∧ utf8 (mask s) = shown.flatten) ∧
    mask (mask s) = mask s ∧
    parameterSpan? (mask s) = parameterSpan? s := by
  obtain ⟨items, hitems, hmask⟩ := exists_factors_utf8 s
  refine ⟨⟨items, hitems, ?_⟩, ?_, exists_shows_maskFrom .code s, mask_mask s, ?_⟩
  · rw [← hmask, decodeUtf8_utf8]
  · rw [length_utf8, length_utf8, byteLength_mask]
  · rw [parameterSpan?, mask_mask, parameterSpan?]

example : mask "'\\é' /*/ */".toList = "'   '       ".toList := by decide

end Wiring
