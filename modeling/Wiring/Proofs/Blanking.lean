import Wiring.Proofs.Encoding
import Wiring.Proofs.Masking
import Wiring.Proofs.Utf8

/-!
# What masking blanks

Masking reads a text item by item, as the grammar does, and blanks each comment and what each string has
between its quotes. Main statement: `exists_factors_mask`, on the bytes of the text.
-/

namespace Wiring

def bytes : Alphabet UInt8 where
  mark := ⟨fun m => m.char.toUInt8, by intro a b; cases a <;> cases b <;> decide⟩
  blank b := [if b = 10 then 10 else 32]

/-! ## Openings and endings -/

def Delimiter.region : Delimiter → Region
  | slashes | hash => .lineComment
  | block => .blockComment
  | single => .string (characters.mark .single)
  | double => .string (characters.mark .double)

theorem Delimiter.OpensAt.mask_append {δ : Delimiter} {tail : Text}
    (h : δ.OpensAt characters (characters.word δ.opening ++ tail)) :
    mask (characters.word δ.opening ++ tail) =
      δ.shown characters (characters.word δ.opening) ++ maskFrom δ.region tail := by
  cases δ with
  | hash =>
    have hnext : tail.head? ≠ some '[' := by
      intro hnext
      obtain ⟨t, rfl⟩ := List.head?_eq_some_iff.1 hnext
      exact h.2 rfl ⟨t, rfl⟩
    have hstep : Region.code.step '#' tail.head? = .lineComment := by simp [Region.step, hnext]
    show (if Region.code.keeps (Region.code.step '#' tail.head?) then ['#'] else blanked '#') ++
      maskFrom (Region.code.step '#' tail.head?) tail = _
    rw [hstep]
    rfl
  | slashes | block | single | double => rfl

theorem Delimiter.Holds.maskFrom_append {δ : Delimiter} {closed : Bool} {body rest : Text}
    (hbody : δ.Holds characters closed body) (hrest : δ.EndsBefore characters closed rest) :
    maskFrom δ.region (body ++ (δ.ending characters closed ++ rest)) =
      body.flatMap blanked ++ maskFrom δ.region (δ.ending characters closed ++ rest) := by
  cases δ with
  | slashes | hash => exact maskFrom_lineComment hbody _
  | block =>
    refine maskFrom_blockComment hbody fun _ hslash => ?_
    obtain ⟨t, ht⟩ := hrest.stop_prefix (by intro hnil; rw [hnil] at hslash; cases hslash)
    rw [← ht] at hslash
    cases hslash
  | single => exact maskFrom_string (q := '\'') (by decide) hbody hrest.ending_eq_nil_iff.2
  | double => exact maskFrom_string (q := '"') (by decide) hbody hrest.ending_eq_nil_iff.2

theorem Delimiter.EndsBefore.maskFrom_append {δ : Delimiter} {closed : Bool} {rest : Text}
    (h : δ.EndsBefore characters closed rest) :
    maskFrom δ.region (δ.ending characters closed ++ rest) =
      δ.shown characters (δ.ending characters closed) ++ mask rest := by
  cases closed with
  | false =>
    rw [show rest = [] from h]
    cases δ <;> rfl
  | true =>
    cases δ with
    | slashes | hash =>
      obtain ⟨rest, rfl⟩ := List.head?_eq_some_iff.1 (h rfl)
      rfl
    | block => rfl
    | single | double => rfl

/-! ## Masking item by item -/

theorem mask_code_append {c : Char} {rest : Text} (h : (Item.code c).Fits characters rest) :
    mask (c :: rest) = c :: mask rest := by
  have hslashes : ¬ (c = '/' ∧ rest.head? = some '/') := by
    intro hc
    obtain ⟨rfl, hnext⟩ := hc
    obtain ⟨t, rfl⟩ := List.head?_eq_some_iff.1 hnext
    exact h .slashes ⟨⟨t, rfl⟩, nofun⟩
  have hhash : ¬ (c = '#' ∧ rest.head? ≠ some '[') := by
    intro hc
    obtain ⟨rfl, hnext⟩ := hc
    refine h .hash ⟨⟨rest, rfl⟩, ?_⟩
    intro _ hbracket
    obtain ⟨t, ht⟩ := hbracket
    exact hnext (by rw [← (List.cons.inj ht).2]; rfl)
  have hblock : ¬ (c = '/' ∧ rest.head? = some '*') := by
    intro hc
    obtain ⟨rfl, hnext⟩ := hc
    obtain ⟨t, rfl⟩ := List.head?_eq_some_iff.1 hnext
    exact h .block ⟨⟨t, rfl⟩, nofun⟩
  have hquote : ¬ (c = '\'' ∨ c = '"') := by
    intro hc
    rcases hc with rfl | rfl
    · exact h .single ⟨⟨rest, rfl⟩, nofun⟩
    · exact h .double ⟨⟨rest, rfl⟩, nofun⟩
  simp only [mask, maskFrom, Region.step, hslashes, hhash, hblock, hquote, if_false, Region.keeps,
    if_true, List.singleton_append]

theorem mask_eq_flatMap {s : Text} {items : List (Item Char)} (h : Factors characters s items) :
    mask s = items.flatMap (Item.masked characters) := by
  induction h with
  | nil => rfl
  | @cons item rest items hfits _ ih =>
    rw [List.flatMap_cons, ← ih]
    cases item with
    | code c => exact mask_code_append hfits
    | enclosed δ body closed =>
      obtain ⟨hopens, hbody, hrest⟩ := hfits
      simp only [Item.text, Item.masked, List.append_assoc] at hopens ⊢
      rw [hopens.mask_append, hbody.maskFrom_append hrest, hrest.maskFrom_append]
      rfl

/-! ## Bytes -/

theorem toNat_eq_of_mem_utf8EncodeChar {c : Char} {b : UInt8} (hb : b ∈ String.utf8EncodeChar c)
    (hlt : b.toNat < 128) : c.toNat = b.toNat := by
  -- the bytes of a longer sequence have their highest bit set
  have hlong : ∀ n, 128 ≤ n → n < 256 → b ≠ UInt8.ofNat n := by
    intro n hlow hhigh hb
    subst hb
    rw [toNat_ofNat_of_lt hhigh] at hlt
    omega
  by_cases hc : c.val.toNat ≤ 127
  · simp only [String.utf8EncodeChar, if_pos hc] at hb
    rw [List.mem_singleton.1 hb, toNat_ofNat_of_lt (by omega)]
    rfl
  · simp only [String.utf8EncodeChar, if_neg hc] at hb
    split_ifs at hb <;> simp only [List.mem_cons, List.not_mem_nil, or_false] at hb
    · rcases hb with h | h <;> exact absurd h (hlong _ (by omega) (by omega))
    · rcases hb with h | h | h <;> exact absurd h (hlong _ (by omega) (by omega))
    · rcases hb with h | h | h | h <;> exact absurd h (hlong _ (by omega) (by omega))

def utf8Encoding : Encoding characters bytes where
  code := String.utf8EncodeChar
  code_mark m := by cases m <;> rfl
  eq_mark {c m} hm := by
    have htoNat : (bytes.mark m).toNat = (characters.mark m).toNat ∧ (bytes.mark m).toNat < 128 := by
      cases m <;> decide
    rw [← Char.toNat_inj, ← htoNat.1]
    exact toNat_eq_of_mem_utf8EncodeChar hm htoNat.2
  code_ne_nil _ := String.utf8EncodeChar_ne_nil
  code_blank c := by
    show (blanked c).flatMap String.utf8EncodeChar = (String.utf8EncodeChar c).flatMap bytes.blank
    unfold blanked
    split
    · subst c
      rfl
    · rename_i hc
      have hblank : ∀ b ∈ String.utf8EncodeChar c, bytes.blank b = [32] := by
        intro b hb
        refine congrArg ([·]) (if_neg ?_)
        intro hnewline
        subst hnewline
        exact hc (Char.toNat_inj.1 (toNat_eq_of_mem_utf8EncodeChar hb (by decide)))
      calc (List.replicate c.utf8Size ' ').flatMap String.utf8EncodeChar
          = List.replicate c.utf8Size 32 := by
            rw [← List.flatMap_singleton' (List.replicate c.utf8Size 32)]
            simp [List.flatMap_replicate, String.utf8EncodeChar]
        _ = (String.utf8EncodeChar c).flatMap fun _ => [32] := by
          rw [← List.map_eq_flatMap, List.map_const', String.length_utf8EncodeChar]
        _ = (String.utf8EncodeChar c).flatMap bytes.blank := List.flatMap_congr fun b hb => (hblank b hb).symm

theorem exists_factors_utf8 (s : Text) :
    ∃ items, Factors bytes (utf8 s) items ∧ utf8 (mask s) = items.flatMap (Item.masked bytes) := by
  obtain ⟨items, h⟩ := exists_factors (A := characters) s
  refine ⟨_, utf8Encoding.factors h, ?_⟩
  rw [mask_eq_flatMap h]
  exact utf8Encoding.encode_flatMap_masked items

theorem exists_factors_mask (s : Text) :
    ∃ items, Factors bytes (utf8 s) items ∧
      (∀ items', Factors bytes (utf8 s) items' → items' = items) ∧
      utf8 (mask s) = items.flatMap (Item.masked bytes) ∧
      (utf8 (mask s)).length = (utf8 s).length := by
  obtain ⟨items, hbytes, hmask⟩ := exists_factors_utf8 s
  refine ⟨items, hbytes, fun _ => hbytes.unique, hmask, ?_⟩
  rw [hmask, show utf8 s = _ from hbytes.eq_flatMap, List.length_flatMap, List.length_flatMap]
  exact congrArg List.sum (List.map_congr_left fun item _ => item.length_masked (fun _ => rfl))

example : mask "/*/ */#[a '#\\'\n'//*".toList = "      #[a '   \n'   ".toList := by decide

end Wiring
