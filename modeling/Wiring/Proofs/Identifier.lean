import Wiring.Dependency
import Wiring.Text.Blank
import Wiring.Text.Word

/-!
# Identifiers

The characters of identifiers are word characters, never blanks, and none of the marks that the
lookups in a source go by.
-/

namespace Wiring

/-- A dependency whose type and name are identifiers, as a valid manifest has it. -/
def Dependency.IsNamed (d : Dependency) : Prop := isIdentifier d.type = true ∧ isIdentifier d.name = true

instance (d : Dependency) : Decidable d.IsNamed := inferInstanceAs (Decidable (_ ∧ _))

theorem toNat_of_isAsciiWord {c : Char} (h : isAsciiWord c = true) :
    (48 ≤ c.toNat ∧ c.toNat ≤ 57) ∨ (65 ≤ c.toNat ∧ c.toNat ≤ 90) ∨ c.toNat = 95 ∨
      (97 ≤ c.toNat ∧ c.toNat ≤ 122) := by
  have halpha : c.isAlpha =
    (decide (c.val ≥ 65 ∧ c.val ≤ 90) || (c.val ≥ 97 && c.val ≤ 122)) := rfl
  simp only [isAsciiWord, Char.isAlphanum, halpha, Char.isDigit, Bool.or_eq_true,
    Bool.and_eq_true, decide_eq_true_eq, beq_iff_eq, UInt32.le_iff_toNat_le] at h
  rcases h with ((⟨h₁, h₂⟩ | ⟨h₁, h₂⟩) | ⟨h₁, h₂⟩) | rfl
  · exact .inr (.inl ⟨h₁, h₂⟩)
  · exact .inr (.inr (.inr ⟨h₁, h₂⟩))
  · exact .inl ⟨h₁, h₂⟩
  · exact .inr (.inr (.inl rfl))

theorem isWord_of_isAsciiWord {c : Char} (h : isAsciiWord c = true) : isWord c = true := by
  have := toNat_of_isAsciiWord h
  rw [isWord, if_pos (by omega), h]

theorem isAsciiWord_of_not_isWord {c : Char} (h : isWord c = false) : isAsciiWord c = false := by
  cases hc : isAsciiWord c with
  | false => rfl
  | true => simp [isWord_of_isAsciiWord hc] at h

theorem isBlank_of_isAsciiWord {c : Char} (h : isAsciiWord c = true) : isBlank c = false := by
  have hc := toNat_of_isAsciiWord h
  rw [← Bool.not_eq_true, isBlank, inRanges_iff]
  simp only [blankRanges, List.mem_cons, List.not_mem_nil, or_false]
  intro h'
  obtain ⟨r, hr, h₁, h₂⟩ := h'
  rcases hr with rfl | rfl | rfl | rfl | rfl | rfl | rfl | rfl | rfl | rfl <;> simp at h₁ h₂ <;> omega

theorem isWord_of_isBlank {c : Char} (h : isBlank c = true) : isWord c = false := by
  have hdisjoint : ∀ b ∈ blankRanges, ∀ r ∈ wordRanges, r.2 < b.1 ∨ b.2 < r.1 := by decide +kernel
  rw [← Bool.not_eq_true, isWord]
  split
  · intro hc
    simp [isBlank_of_isAsciiWord hc] at h
  · intro hc
    obtain ⟨b, hb, h₁, h₂⟩ := inRanges_iff.1 h
    obtain ⟨r, hr, h₃, h₄⟩ := inRanges_iff.1 hc
    have := hdisjoint b hb r hr
    omega

theorem notMem_of_isBlank {w : Text} (hw : ∀ c ∈ w, isBlank c = true) {c : Char}
    (hc : isBlank c = false) : c ∉ w := fun hmem => by
  simp [hw c hmem] at hc

theorem isAsciiWord_of_isIdentifier {w : Text} (h : isIdentifier w = true) :
    w ≠ [] ∧ ∀ c ∈ w, isAsciiWord c = true := by
  cases w with
  | nil => cases h
  | cons c w =>
    simp only [isIdentifier, isIdentifierStart, Bool.and_eq_true, List.all_eq_true] at h
    refine ⟨by simp, fun d hd => ?_⟩
    rcases List.mem_cons.1 hd with rfl | hd
    · have := h.1
      simp only [Bool.or_eq_true] at this
      simp only [isAsciiWord, Char.isAlphanum, Bool.or_eq_true]
      exact this.imp_left .inl
    · exact h.2 d hd

theorem notMem_of_isIdentifier {w : Text} (h : isIdentifier w = true) {c : Char}
    (hc : isAsciiWord c = false) : c ∉ w := fun hmem => by
  simp [(isAsciiWord_of_isIdentifier h).2 c hmem] at hc

end Wiring
