import Mathlib.Data.Bool.AllAny
import Wiring.Text.Basic

/-!
# Searches through joined texts

A search through `s ++ t` tries the places in `s`, with `t` after them, and then the places in `t`.
-/

namespace Wiring

variable {α β : Type} {read : Text → Text → Option α}

/-- What `read` finds at the first place in `s` where it finds something, when `after` follows. -/
def leftmostIn (read : Text → Text → Option α) : (before s after : Text) → Option α
  | _, [], _ => none
  | before, c :: s, after =>
    match read before (c :: s ++ after) with
    | some a => some a
    | none => leftmostIn read (c :: before) s after

theorem leftmostFrom_append (p s t : Text) :
    leftmostFrom read p (s ++ t) =
      (leftmostIn read p s t).or (leftmostFrom read (s.reverse ++ p) t) := by
  induction s generalizing p with
  | nil => simp [leftmostIn]
  | cons c s ih =>
    rw [List.cons_append, leftmostFrom, leftmostIn, List.cons_append]
    cases read p (c :: (s ++ t)) with
    | some a => rfl
    | none => simp [ih]

theorem leftmost_append (s t : Text) :
    leftmost read (s ++ t) = (leftmostIn read [] s t).or (leftmostFrom read s.reverse t) := by
  simpa [leftmost] using @leftmostFrom_append _ read [] s t

theorem leftmostFrom_eq_or (p s : Text) :
    leftmostFrom read p s = (leftmostIn read p s []).or (read (s.reverse ++ p) []) := by
  simpa [leftmostFrom] using @leftmostFrom_append _ read p s []

theorem leftmostIn_eq_none_iff {p s t : Text} :
    leftmostIn read p s t = none ↔
      ∀ a b, s = a ++ b → b ≠ [] → read (a.reverse ++ p) (b ++ t) = none := by
  induction s generalizing p with
  | nil => simp [leftmostIn]
  | cons c s ih =>
    rw [leftmostIn]
    cases hr : read p (c :: s ++ t) with
    | some x =>
      simp only [reduceCtorEq, false_iff]
      intro h
      have h0 : read p (c :: s ++ t) = none := h [] (c :: s) rfl (by simp)
      rw [h0] at hr; cases hr
    | none =>
      refine ih.trans ⟨fun h a b hs hb => ?_, fun h a b hs hb => ?_⟩
      · cases a with
        | nil => obtain rfl : c :: s = b := hs; simpa using hr
        | cons d a =>
          obtain ⟨rfl, rfl⟩ := List.cons.inj hs
          simpa using h a b rfl hb
      · simpa using h (c :: a) b (by simp [hs]) hb

theorem leftmost_eq_none_iff {s : Text} :
    leftmost read s = none ↔ ∀ a b, s = a ++ b → read a.reverse b = none := by
  rw [leftmost, leftmostFrom_eq_or, Option.or_eq_none_iff, leftmostIn_eq_none_iff]
  simp only [List.append_nil]
  constructor
  · rintro ⟨h, hs⟩ a b rfl
    by_cases hb : b = []
    · subst hb; simpa using hs
    · exact h a b rfl hb
  · exact fun h => ⟨fun a b hs _ => h a b hs, h s [] (by simp)⟩

theorem occurs_iff {w s : Text} : occurs w s = true ↔ w <:+: s := by
  rw [occurs, Option.isSome_iff_ne_none, Ne, leftmost_eq_none_iff]
  simp only [Option.eq_none_iff_forall_ne_some, Ne, after?_eq_some_iff]
  constructor
  · intro h
    refine Classical.byContradiction fun hn => h fun a b hs r hb => hn ⟨a, r, ?_⟩
    rw [hs, hb, List.append_assoc]
  · intro h' h
    obtain ⟨a, r, rfl⟩ := h'
    exact h a (w ++ r) (List.append_assoc ..) r rfl

theorem leftmost_isSome {a b : Text} (h : (read a.reverse b).isSome) :
    (leftmost read (a ++ b)).isSome := by
  cases hs : leftmost read (a ++ b) with
  | some x => rfl
  | none => simp [leftmost_eq_none_iff.1 hs a b rfl] at h

/-- The first place of a text where something is read, with the text before that place. -/
theorem leftmost_placed_eq_some_iff {s u : Text} {a : α} :
    leftmost (fun before rest => (read before.reverse rest).map fun x => (before.reverse, x)) s =
        some (u, a) ↔
      ∃ r, s = u ++ r ∧ read u r = some a ∧ ∀ x y, u = x ++ y → y ≠ [] → read x (y ++ r) = none := by
  simp only [leftmost_eq_some_iff, Option.map_eq_some_iff, Option.map_eq_none_iff,
    List.reverse_reverse, Prod.mk.injEq]
  constructor
  · rintro ⟨b, r, rfl, ⟨_, ha, rfl, rfl⟩, hfirst⟩
    refine ⟨r, rfl, ha, ?_⟩
    rintro x y rfl hy
    have := List.length_pos_iff.2 hy
    exact hfirst x (y ++ r) (List.append_assoc x y r) (by rw [List.length_append]; omega)
  · rintro ⟨r, rfl, ha, hfirst⟩
    refine ⟨u, r, rfl, ⟨a, ha, rfl, rfl⟩, fun x r' hs hlt => ?_⟩
    obtain ⟨y, rfl⟩ : x <+: u := List.prefix_of_prefix_length_le ⟨r', hs.symm⟩
      (List.prefix_append u r) (Nat.le_of_lt hlt)
    rw [List.append_assoc, List.append_cancel_left_eq] at hs
    rw [← hs]
    refine hfirst x y rfl ?_
    rintro rfl
    simp at hlt

/-- The first place of a text where something is read of the text after it alone. -/
theorem leftmost_place_eq_some_iff {read : Text → Option α} {s u : Text} {a : α} :
    leftmost (fun before rest => (read rest).map fun x => (before.reverse, x)) s = some (u, a) ↔
      ∃ r, s = u ++ r ∧ read r = some a ∧ ∀ x y, u = x ++ y → y ≠ [] → read (y ++ r) = none :=
  @leftmost_placed_eq_some_iff α (fun _ => read) s u a

/-- Two searches that agree place by place, up to `f`, find the same up to `f`. -/
theorem leftmostIn_map {read' : Text → Text → Option β} {f : α → β} {p p' s t t' : Text}
    (h : ∀ a b, s = a ++ b → b ≠ [] →
      read' (a.reverse ++ p') (b ++ t') = (read (a.reverse ++ p) (b ++ t)).map f) :
    leftmostIn read' p' s t' = (leftmostIn read p s t).map f := by
  induction s generalizing p p' with
  | nil => rfl
  | cons c s ih =>
    have h0 : read' p' (c :: s ++ t') = (read p (c :: s ++ t)).map f := by
      simpa using h [] (c :: s) rfl (by simp)
    rw [leftmostIn, leftmostIn, h0]
    cases read p (c :: s ++ t) with
    | some a => rfl
    | none =>
      apply ih
      intro a b hs hb
      simpa using h (c :: a) b (by simp [hs]) hb

theorem leftmostFrom_map {read' : Text → Text → Option β} {f : α → β} {p p' s : Text}
    (h : ∀ a b, s = a ++ b → read' (a.reverse ++ p') b = (read (a.reverse ++ p) b).map f) :
    leftmostFrom read' p' s = (leftmostFrom read p s).map f := by
  rw [leftmostFrom_eq_or, leftmostFrom_eq_or, Option.map_or]
  congr 1
  · exact leftmostIn_map fun a b hs _ => by simpa using h a b hs
  · exact h s [] (by simp)

theorem leftmost_map (f : α → β) (s : Text) :
    leftmost (fun b r => (read b r).map f) s = (leftmost read s).map f :=
  leftmostFrom_map fun _ _ _ => by simp

theorem suffix_append_cases {y a b : Text} (h : y <:+ a ++ b) :
    y <:+ b ∨ ∃ x, x ≠ [] ∧ x <:+ a ∧ y = x ++ b := by
  obtain ⟨t, ht⟩ := h
  rcases List.append_eq_append_iff.1 ht with ⟨v, rfl, rfl⟩ | ⟨v, rfl, rfl⟩
  · by_cases hv : v = []
    · exact .inl (by simp [hv])
    · exact .inr ⟨v, hv, List.suffix_append _ _, rfl⟩
  · exact .inl (List.suffix_append _ _)

theorem mem_getLast?_of_suffix {y a : Text} (hy : y <:+ a) {e : Char} (he : e ∈ y.getLast?) :
    e ∈ a.getLast? := by
  obtain ⟨x, rfl⟩ := hy
  rw [List.getLast?_append, Option.mem_def.1 he]
  rfl

/-- A place of a text with three parts lies before the second part, in it, or after it. -/
theorem append_split_cases {a w b x y : Text} (h : a ++ (w ++ b) = x ++ y) :
    (∃ z, z ≠ [] ∧ a = x ++ z ∧ y = z ++ (w ++ b)) ∨
      (∃ v z, z ≠ [] ∧ w = v ++ z ∧ x = a ++ v ∧ y = z ++ b) ∨
      ∃ v, b = v ++ y ∧ x = a ++ (w ++ v) := by
  have hin : ∀ v, w ++ b = v ++ y → x = a ++ v → (∃ v z, z ≠ [] ∧ w = v ++ z ∧ x = a ++ v ∧ y = z ++ b) ∨
      ∃ v, b = v ++ y ∧ x = a ++ (w ++ v) := by
    rintro v hv rfl
    rcases List.append_eq_append_iff.1 hv with ⟨z, rfl, hz⟩ | ⟨z, rfl, hz⟩
    · exact .inr ⟨z, hz, rfl⟩
    · by_cases hz' : z = []
      · subst hz'
        exact .inr ⟨[], by simpa using hz.symm, by simp⟩
      · exact .inl ⟨v, z, hz', rfl, rfl, hz⟩
  rcases List.append_eq_append_iff.1 h with ⟨z, rfl, hz⟩ | ⟨z, rfl, hz⟩
  · exact .inr (hin z hz rfl)
  · by_cases hz' : z = []
    · subst hz'
      exact .inr (hin [] (by simpa using hz.symm) (by simp))
    · exact .inl ⟨z, hz', rfl, hz⟩

end Wiring
