import Wiring.Proofs.Insertion
import Wiring.Proofs.OpenConstructor

/-!
# Class headers and insertions

A quiet insertion neither adds nor removes the header of a controller class.
-/

namespace Wiring

def classBrace : Phrase :=
  ⟨.word "class".toList,
    [⟨true, .controllerName⟩, ⟨true, .word "extends".toList⟩,
      ⟨true, .word "AbstractController".toList⟩, ⟨false, .word ['{']⟩]⟩

theorem afterClassBrace?_eq (s : Text) : afterClassBrace? s = classBrace.after? s := by
  simp only [afterClassBrace?, classBrace, Phrase.after?, afterLinks?, Link.after?, afterGap?,
    Token.after?, Option.bind_eq_bind, Option.bind_assoc, Option.bind_some, ite_true,
    Bool.false_eq_true, ite_false, Option.bind_fun_some]

theorem classBrace_endsIn : classBrace.EndsIn '{' where
  first := by simp [classBrace, Token.Excludes]
  links := ⟨[⟨true, .controllerName⟩, ⟨true, .word "extends".toList⟩,
    ⟨true, .word "AbstractController".toList⟩], false, rfl, by
      simp [Token.Excludes]; decide⟩
  notBlank := by decide

theorem classBrace_isSolid : classBrace.IsSolid where
  words l hl w hw := by
    simp only [classBrace, List.mem_cons, List.not_mem_nil, or_false] at hl
    rcases hl with rfl | rfl | rfl | rfl <;> cases hw
    · exact ⟨'e', "xtends".toList, rfl, by decide⟩
    · exact ⟨'A', "bstractController".toList, rfl, by decide⟩
    · exact ⟨'{', [], rfl, by decide⟩
  excludes e he := by
    have hw := isWord_of_isEdge he
    rcases edge_cases he with rfl | rfl | rfl | rfl <;>
      simp [Phrase.Excludes, classBrace, Token.Excludes, hw]
  mark := ⟨⟨false, .word ['{']⟩, by simp [classBrace], .inr rfl⟩

def EndsLine (s : Text) : Prop := ∃ i b r, s = i ++ (b ++ r) ∧ IsIndent i ∧ IsLineBreak b

theorem classHeader?_isSome_iff {s : Text} : (classHeader? s).isSome = true ↔
    ∃ body, classBrace.after? s = some body ∧ EndsLine body := by
  simp only [classHeader?, afterClassBrace?_eq, Option.bind_eq_bind, Option.pure_def,
    Option.isSome_iff_exists, Option.bind_eq_some_iff, Option.some.injEq, Prod.exists,
    lineBreak?_eq_some_iff]
  constructor
  · intro h
    obtain ⟨h, body, hbody, b, r, ⟨hb, hr⟩, -⟩ := h
    exact ⟨body, hbody, _, b, r, by rw [← hr, List.takeWhile_append_dropWhile],
      fun _ => List.mem_takeWhile_imp, hb⟩
  · intro h'
    obtain ⟨body, hbody, i, b, r, rfl, hi, hb⟩ := h'
    refine ⟨_, _, hbody, b, r, ⟨hb, (takeWhile_append_stop hi ?_).2⟩, rfl⟩
    rcases hb with rfl | rfl <;> simp <;> decide

def firstHeader? (s : Text) : Option (Text × ClassHeader) :=
  leftmost (fun before rest => (classHeader? rest).map fun h => (before.reverse, h)) s

theorem firstHeader?_isSome_iff {s : Text} : (firstHeader? s).isSome = true ↔
    ∃ y body, y <:+ s ∧ classBrace.after? y = some body ∧ EndsLine body := by
  rw [← not_iff_not, Option.not_isSome_iff_eq_none, firstHeader?, leftmost_eq_none_iff]
  simp only [← Option.not_isSome_iff_eq_none, Option.isSome_map, classHeader?_isSome_iff,
    not_exists, not_and]
  exact ⟨fun h y body ⟨x, hx⟩ => h x y hx.symm body, fun h x y hs body => h y body ⟨x, hs.symm⟩⟩

/-- The parts of a class header. It is one whatever follows its line. -/
theorem classHeader?_parts {s : Text} {h : ClassHeader} (hs : classHeader? s = some h) :
    s = h.header ++ h.rest ∧ IsLineBreak h.lineBreak ∧
      (∃ c i, h.header = c ++ '{' :: (i ++ h.lineBreak) ∧ IsIndent i) ∧
      ∀ r, (classHeader? (h.header ++ r)).isSome = true := by
  simp only [classHeader?, afterClassBrace?_eq, Option.bind_eq_bind, Option.pure_def,
    Option.bind_eq_some_iff, Option.some.injEq, Prod.exists, lineBreak?_eq_some_iff] at hs
  obtain ⟨body, hbody, b, r, ⟨hb, hr⟩, rfl⟩ := hs
  obtain ⟨c, -, -, rfl, hlocal⟩ := classBrace_endsIn.after?_local hbody
  have hsplit : c ++ '{' :: body = (c ++ '{' :: (body.takeWhile isIndent ++ b)) ++ r := by
    simp [← hr]
  have htake : (c ++ '{' :: body).take ((c ++ '{' :: body).length - r.length) =
      c ++ '{' :: (body.takeWhile isIndent ++ b) := by
    rw [hsplit, List.length_append, Nat.add_sub_cancel, List.take_left']
    rfl
  simp only [htake]
  refine ⟨hsplit, hb, ⟨c, _, rfl, fun _ => List.mem_takeWhile_imp⟩, fun r' => ?_⟩
  refine classHeader?_isSome_iff.2 ⟨body.takeWhile isIndent ++ (b ++ r'), ?_, ?_⟩
  · simpa using hlocal (body.takeWhile isIndent ++ (b ++ r'))
  · exact ⟨_, b, r', rfl, fun _ => List.mem_takeWhile_imp, hb⟩

theorem firstHeader?_eq_some {s u : Text} {h : ClassHeader} (hs : firstHeader? s = some (u, h)) :
    s = u ++ h.header ++ h.rest ∧ classHeader? (h.header ++ h.rest) = some h := by
  obtain ⟨r, rfl, hh, -⟩ := leftmost_place_eq_some_iff.1 hs
  obtain ⟨rfl, -⟩ := classHeader?_parts hh
  exact ⟨by simp, hh⟩

theorem EndsLine.append {y : Text} (h : EndsLine y) (r : Text) : EndsLine (y ++ r) := by
  obtain ⟨i, b, t, rfl, hi, hb⟩ := h
  exact ⟨i, b, t ++ r, by simp, hi, hb⟩

theorem EndsLine.of_append {y r : Text} {e : Char} (hy : y.getLast? = some e)
    (he : isIndent e = false ∧ e ≠ '\r') (h : EndsLine (y ++ r)) : EndsLine y := by
  obtain ⟨i, b, t, hyr, hi, hb⟩ := h
  have hmem := List.mem_of_getLast? hy
  rcases List.append_eq_append_iff.1 hyr with ⟨v, rfl, -⟩ | ⟨v, rfl, hv⟩
  · simp [hi e (by simp [hmem])] at he
  · have hne : v ≠ [] := by
      rintro rfl
      simp [hi e (by simpa using hmem)] at he
    rcases hb with rfl | rfl
    · cases v with
      | nil => exact absurd rfl hne
      | cons c v =>
        obtain rfl := (List.cons.inj hv).1
        exact ⟨i, ['\n'], v, rfl, hi, .inl rfl⟩
    · match v, hv with
      | [], _ => exact absurd rfl hne
      | [c], hv =>
        obtain rfl := (List.cons.inj hv).1
        simp only [List.getLast?_append, List.getLast?_singleton, Option.some_or,
          Option.some.injEq] at hy
        exact absurd hy.symm he.2
      | c :: d :: v, hv =>
        simp only [List.cons_append, List.nil_append, List.cons.injEq] at hv
        obtain ⟨rfl, rfl, -⟩ := hv
        exact ⟨i, ['\r', '\n'], v, rfl, hi, .inr rfl⟩

theorem QuietInsertion.firstHeader?_eq_none_iff {a w b : Text} (h : QuietInsertion a w b) :
    firstHeader? (a ++ (w ++ b)) = none ↔ firstHeader? (a ++ b) = none := by
  rw [← Option.not_isSome_iff_eq_none, ← Option.not_isSome_iff_eq_none, not_iff_not,
    firstHeader?_isSome_iff, firstHeader?_isSome_iff]
  refine (h.sourceSeam classBrace_isSolid).exists_after?_iff fun y hy hya => ?_
  obtain ⟨e, he⟩ : ∃ e, y.getLast? = some e := ⟨_, List.getLast?_eq_some_getLast hy⟩
  have hel : isIndent e = false ∧ e ≠ '\r' := by
    rcases h.before e (mem_getLast?_of_suffix hya he) with rfl | rfl <;> decide
  exact ⟨fun h => (h.of_append he hel).append b, fun h => (h.of_append he hel).append (w ++ b)⟩

end Wiring
