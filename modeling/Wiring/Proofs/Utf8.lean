import Mathlib.Data.List.Infix
import Wiring.Text.Basic
import Wiring.Text.Utf8

/-!
# Encoded texts

The bytes of a text are as many as its length says, and they are read as that text. Main statement:
`decodeUtf8_utf8`.
-/

namespace Wiring

theorem utf8_append (s t : Text) : utf8 (s ++ t) = utf8 s ++ utf8 t := List.flatMap_append

theorem utf8_singleton (c : Char) : utf8 [c] = String.utf8EncodeChar c := List.append_nil _

theorem utf8_cons (c : Char) (s : Text) : utf8 (c :: s) = String.utf8EncodeChar c ++ utf8 s := rfl

theorem length_utf8 (s : Text) : (utf8 s).length = byteLength s := by
  induction s with
  | nil => rfl
  | cons c s ih =>
    rw [utf8_cons, List.length_append, ih, String.length_utf8EncodeChar, byteLength_cons]

/-! ## Continuation bytes -/

theorem toNat_ofNat_of_lt {n : Nat} (hn : n < 256) : (UInt8.ofNat n).toNat = n := by
  rw [UInt8.toNat_ofNat', Nat.mod_eq_of_lt hn]

def continuation (n : Nat) : UInt8 := UInt8.ofNat (n % 64 + 0x80)

theorem toNat_continuation (n : Nat) : (continuation n).toNat = n % 64 + 0x80 :=
  toNat_ofNat_of_lt (by omega)

theorem isContinuation_continuation (n : Nat) : isContinuation (continuation n) = true := by
  simp only [isContinuation, Bool.and_eq_true, decide_eq_true_eq, UInt8.le_iff_toNat_le,
    toNat_continuation, UInt8.reduceToNat]
  omega

/-- The second byte of a sequence that is neither overlong nor a surrogate, nor beyond the last
character. -/
theorem isSecond_continuation {a : UInt8} {n : Nat} (hE0 : a.toNat = 0xE0 → 0x20 ≤ n % 64)
    (hED : a.toNat = 0xED → n % 64 < 0x20) (hF0 : a.toNat = 0xF0 → 0x10 ≤ n % 64)
    (hF4 : a.toNat = 0xF4 → n % 64 < 0x10) : isSecond a (continuation n) = true := by
  unfold isSecond
  simp only [isContinuation_continuation, ← UInt8.toNat_inj, UInt8.le_iff_toNat_le,
    toNat_continuation, UInt8.reduceToNat]
  grind

theorem assemble_continuation (n : Nat) (rest : Bytes) :
    assemble (n / 64) (continuation n :: rest) = assemble n rest := by
  have hnumber : n / 64 * 64 + ((continuation n).toNat - 0x80) = n := by
    rw [toNat_continuation]
    omega
  simp only [assemble, List.foldl_cons, hnumber]

/-! ## Sequences of one to four bytes -/

theorem decodeFrom_one {n : Nat} (hn : n < 0x80) (index : Nat) (rest : Bytes) :
    decodeFrom index (UInt8.ofNat n :: rest) = (Char.ofNat n :: ·) <$> decodeFrom (index + 1) rest := by
  have ha : (UInt8.ofNat n).toNat = n := toNat_ofNat_of_lt (by omega)
  rw [decodeFrom.eq_def]
  simp only [UInt8.lt_iff_toNat_lt, ha, UInt8.reduceToNat, hn, if_true]

theorem decodeFrom_two {n : Nat} (hn : 0x80 ≤ n ∧ n < 0x800) (index : Nat) (rest : Bytes) :
    decodeFrom index (UInt8.ofNat (n / 64 + 0xC0) :: continuation n :: rest) =
      (Char.ofNat n :: ·) <$> decodeFrom (index + 2) rest := by
  have ha : (UInt8.ofNat (n / 64 + 0xC0)).toNat = n / 64 + 0xC0 := toNat_ofNat_of_lt (by omega)
  have hlead : ¬ n / 64 + 0xC0 < 0x80 ∧ ¬ (n / 64 + 0xC0 < 0xC2 ∨ 0xF4 < n / 64 + 0xC0) ∧
      n / 64 + 0xC0 < 0xE0 := by omega
  rw [decodeFrom.eq_def]
  simp only [UInt8.lt_iff_toNat_lt, ha, UInt8.reduceToNat, hlead, isContinuation_continuation,
    Nat.add_sub_cancel, assemble_continuation, if_true, if_false]
  rfl

theorem decodeFrom_three {n : Nat} (hn : 0x800 ≤ n ∧ n < 0x10000) (hscalar : n < 0xD800 ∨ 0xDFFF < n)
    (index : Nat) (rest : Bytes) :
    decodeFrom index (UInt8.ofNat (n / 64 / 64 + 0xE0) :: continuation (n / 64) :: continuation n ::
      rest) = (Char.ofNat n :: ·) <$> decodeFrom (index + 3) rest := by
  have ha : (UInt8.ofNat (n / 64 / 64 + 0xE0)).toNat = n / 64 / 64 + 0xE0 :=
    toNat_ofNat_of_lt (by omega)
  have hlead : ¬ n / 64 / 64 + 0xE0 < 0x80 ∧
      ¬ (n / 64 / 64 + 0xE0 < 0xC2 ∨ 0xF4 < n / 64 / 64 + 0xE0) ∧
      ¬ n / 64 / 64 + 0xE0 < 0xE0 ∧ n / 64 / 64 + 0xE0 < 0xF0 := by omega
  have hsecond : isSecond (UInt8.ofNat (n / 64 / 64 + 0xE0)) (continuation (n / 64)) = true := by
    apply isSecond_continuation <;> rw [ha] <;> omega
  rw [decodeFrom.eq_def]
  simp only [UInt8.lt_iff_toNat_lt, ha, UInt8.reduceToNat, hlead, hsecond,
    isContinuation_continuation, Nat.add_sub_cancel, assemble_continuation, not_true_eq_false,
    if_true, if_false]
  rfl

theorem decodeFrom_four {n : Nat} (hn : 0x10000 ≤ n ∧ n < 0x110000) (index : Nat) (rest : Bytes) :
    decodeFrom index (UInt8.ofNat (n / 64 / 64 / 64 + 0xF0) :: continuation (n / 64 / 64) ::
      continuation (n / 64) :: continuation n :: rest) =
      (Char.ofNat n :: ·) <$> decodeFrom (index + 4) rest := by
  have ha : (UInt8.ofNat (n / 64 / 64 / 64 + 0xF0)).toNat = n / 64 / 64 / 64 + 0xF0 :=
    toNat_ofNat_of_lt (by omega)
  have hlead : ¬ n / 64 / 64 / 64 + 0xF0 < 0x80 ∧
      ¬ (n / 64 / 64 / 64 + 0xF0 < 0xC2 ∨ 0xF4 < n / 64 / 64 / 64 + 0xF0) ∧
      ¬ n / 64 / 64 / 64 + 0xF0 < 0xE0 ∧ ¬ n / 64 / 64 / 64 + 0xF0 < 0xF0 := by omega
  have hsecond : isSecond (UInt8.ofNat (n / 64 / 64 / 64 + 0xF0)) (continuation (n / 64 / 64)) = true := by
    apply isSecond_continuation <;> rw [ha] <;> omega
  rw [decodeFrom.eq_def]
  simp only [UInt8.lt_iff_toNat_lt, ha, UInt8.reduceToNat, hlead, hsecond,
    isContinuation_continuation, Nat.add_sub_cancel, assemble_continuation, not_true_eq_false,
    if_true, if_false]
  rfl

/-! ## Texts -/

theorem decodeFrom_utf8EncodeChar_append (index : Nat) (c : Char) (rest : Bytes) :
    decodeFrom index (String.utf8EncodeChar c ++ rest) =
      (c :: ·) <$> decodeFrom (index + (String.utf8EncodeChar c).length) rest := by
  obtain ⟨n, hn⟩ : ∃ n, c.val.toNat = n := ⟨_, rfl⟩
  have hvalid : n < 0xD800 ∨ 0xDFFF < n ∧ n < 0x110000 := hn ▸ c.valid
  have hc : Char.ofNat n = c := hn ▸ Char.ofNat_toNat c
  simp only [String.utf8EncodeChar, hn]
  split_ifs with h₁ h₂ h₃
  · exact hc ▸ decodeFrom_one (by omega) index rest
  · rw [Nat.mod_eq_of_lt (show n / 64 < 32 by omega)]
    exact hc ▸ decodeFrom_two (by omega) index rest
  · rw [show n / 4096 % 16 = n / 64 / 64 by omega]
    exact hc ▸ decodeFrom_three (by omega) (by omega) index rest
  · rw [show n / 262144 % 8 = n / 64 / 64 / 64 by omega, show n / 4096 = n / 64 / 64 by omega]
    exact hc ▸ decodeFrom_four (by omega) index rest

theorem decodeFrom_utf8 (index : Nat) (s : Text) : decodeFrom index (utf8 s) = .ok s := by
  induction s generalizing index with
  | nil => rfl
  | cons c s ih => rw [utf8_cons, decodeFrom_utf8EncodeChar_append, ih]; rfl

theorem decodeUtf8_utf8 (s : Text) : decodeUtf8 (utf8 s) = .ok s := decodeFrom_utf8 0 s

end Wiring
