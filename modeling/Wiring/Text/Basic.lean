/-!
# Texts

A text is a list of characters, measured and cut in bytes of its UTF-8 form.
`leftmost` looks for the first place of a text where something can be read;
`leftmost_eq_some_iff` says that it is the first.
-/

namespace Wiring

abbrev Text := List Char

/-! ## Size and cuts -/

def byteLength : Text → Nat
  | [] => 0
  | c :: s => c.utf8Size + byteLength s

@[simp] theorem byteLength_nil : byteLength [] = 0 := rfl

@[simp] theorem byteLength_cons (c : Char) (s : Text) :
    byteLength (c :: s) = c.utf8Size + byteLength s := rfl

@[simp] theorem byteLength_append (s t : Text) :
    byteLength (s ++ t) = byteLength s + byteLength t := by
  induction s with
  | nil => simp
  | cons c s ih => simp [ih, Nat.add_assoc]

theorem byteLength_pos {s : Text} (hs : s ≠ []) : 0 < byteLength s := by
  obtain ⟨c, s, rfl⟩ := List.exists_cons_of_ne_nil hs
  have := c.utf8Size_pos
  rw [byteLength_cons]
  omega

/-- Splits at a byte offset, which must lie between two characters. -/
def splitAt? : Nat → Text → Option (Text × Text)
  | 0, s => some ([], s)
  | _ + 1, [] => none
  | n + 1, c :: s =>
    if c.utf8Size ≤ n + 1 then
      (splitAt? (n + 1 - c.utf8Size) s).map fun p => (c :: p.1, p.2)
    else none
termination_by structural _ s => s

/-- A range of byte offsets. -/
structure Span where
  start : Nat
  stop : Nat
deriving DecidableEq, Repr

/-- The text at a range of byte offsets. -/
def slice? (s : Text) (span : Span) : Option Text := do
  let (_, rest) ← splitAt? span.start s
  let (inside, _) ← splitAt? (span.stop - span.start) rest
  return inside

theorem splitAt?_byteLength (s t : Text) : splitAt? (byteLength s) (s ++ t) = some (s, t) := by
  induction s with
  | nil => cases t <;> rfl
  | cons c s ih =>
    obtain ⟨n, hn⟩ : ∃ n, c.utf8Size + byteLength s = n + 1 :=
      ⟨c.utf8Size + byteLength s - 1, by have := c.utf8Size_pos; omega⟩
    rw [byteLength_cons, hn, List.cons_append, splitAt?]
    rw [if_pos (by omega), show n + 1 - c.utf8Size = byteLength s by omega, ih]
    rfl

/-- A part of a text is found again at its offsets. -/
theorem slice?_append (a s b : Text) :
    slice? (a ++ s ++ b) ⟨byteLength a, byteLength a + byteLength s⟩ = some s := by
  simp [slice?, splitAt?_byteLength]

/-! ## Reading -/

/-- The rest of a text that starts with `word`. -/
def after? : Text → Text → Option Text
  | [], s => some s
  | _ :: _, [] => none
  | c :: word, d :: s => if c = d then after? word s else none

theorem after?_eq_some_iff {word s rest : Text} :
    after? word s = some rest ↔ s = word ++ rest := by
  induction word generalizing s with
  | nil => simp [after?]
  | cons c word ih =>
    cases s with
    | nil => simp [after?]
    | cons d s => by_cases h : c = d <;> simp [after?, h, ih, Ne.symm]

def leftmostFrom {α : Type} (read : Text → Text → Option α) : Text → Text → Option α
  | before, [] => read before []
  | before, c :: s =>
    match read before (c :: s) with
    | some a => some a
    | none => leftmostFrom read (c :: before) s

/-- What `read` finds at the first place where it finds something. At each place it is given the
text before it, last character first, and the text after it. -/
def leftmost {α : Type} (read : Text → Text → Option α) (s : Text) : Option α :=
  leftmostFrom read [] s

theorem leftmostFrom_eq_some_iff {α : Type} {read : Text → Text → Option α} {p s : Text} {a : α} :
    leftmostFrom read p s = some a ↔
      ∃ b r, s = b ++ r ∧ read (b.reverse ++ p) r = some a ∧
        ∀ b' r', s = b' ++ r' → b'.length < b.length → read (b'.reverse ++ p) r' = none := by
  induction s generalizing p with
  | nil =>
    rw [leftmostFrom]
    constructor
    · intro h
      exact ⟨[], [], rfl, by simpa using h, by simp⟩
    · rintro ⟨b, r, hs, ha, -⟩
      obtain ⟨rfl, rfl⟩ := List.append_eq_nil_iff.1 hs.symm
      simpa using ha
  | cons c s ih =>
    rw [leftmostFrom]
    cases h : read p (c :: s) with
    | some x =>
      constructor
      · rintro ⟨⟩
        exact ⟨[], c :: s, rfl, by simpa using h, by simp⟩
      · rintro ⟨b, r, hs, ha, hb⟩
        cases b with
        | nil => cases hs; simpa [h] using ha
        | cons d b => simpa [h] using hb [] (c :: s) rfl (by simp)
    | none =>
      refine ih.trans ⟨?_, ?_⟩
      · rintro ⟨b, r, rfl, ha, hb⟩
        refine ⟨c :: b, r, rfl, by simpa using ha, fun b' r' hs hl => ?_⟩
        cases b' with
        | nil => obtain rfl : c :: (b ++ r) = r' := hs; simpa using h
        | cons d b' =>
          simp only [List.cons_append, List.cons.injEq] at hs
          obtain ⟨rfl, hs⟩ := hs
          simpa using hb b' r' hs (by simpa using hl)
      · rintro ⟨b, r, hs, ha, hb⟩
        cases b with
        | nil =>
          obtain rfl : c :: s = r := hs
          simp [h] at ha
        | cons d b =>
          simp only [List.cons_append, List.cons.injEq] at hs
          obtain ⟨rfl, rfl⟩ := hs
          refine ⟨b, r, rfl, by simpa using ha, fun b' r' hs hl => ?_⟩
          simpa using hb (c :: b') r' (by simp [hs]) (by simpa using hl)

theorem leftmost_eq_some_iff {α : Type} {read : Text → Text → Option α} {s : Text} {a : α} :
    leftmost read s = some a ↔
      ∃ b r, s = b ++ r ∧ read b.reverse r = some a ∧
        ∀ b' r', s = b' ++ r' → b'.length < b.length → read b'.reverse r' = none := by
  simpa [leftmost] using @leftmostFrom_eq_some_iff α read [] s a

/-- Whether `word` occurs in a text. -/
def occurs (word s : Text) : Bool := (leftmost (fun _ r => after? word r) s).isSome

/-! ## Pieces -/

/-- The pieces of a text between its separators: one more than there are separators. -/
def pieces (separator : Char) : Text → List Text
  | [] => [[]]
  | c :: s =>
    if c = separator then [] :: pieces separator s
    else
      match pieces separator s with
      | [] => [[c]]
      | p :: ps => (c :: p) :: ps

/-- The texts one after the other, with `separator` between each two. -/
def joinWith (separator : Text) : List Text → Text
  | [] => []
  | [s] => s
  | s :: t :: ss => s ++ separator ++ joinWith separator (t :: ss)

end Wiring
