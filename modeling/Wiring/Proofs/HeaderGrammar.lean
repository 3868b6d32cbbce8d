import Wiring.Proofs.NewConstructor

/-!
# The grammar of class headers

A constructor is added to a source exactly when a class header starts in it. It goes behind the first
one, of which the start says where it ends and in which line break. Main statement:
`Dependency.addConstructor_first`.
-/

namespace Wiring

/-- Whether `w` is a run of word characters that goes on neither into the text before it nor into the text
after it. -/
structure IsMaximalRun (before w after : Text) : Prop where
  word : ∀ c ∈ w, isWord c = true
  left : ∀ c ∈ before.getLast?, isWord c = false
  right : ∀ c ∈ after.head?, isWord c = false

def IsClassBrace (s : Text) : Prop :=
  ∃ g₁ name g₂ g₃ g₄, s = "class".toList ++ (g₁ ++ (name ++ (g₂ ++ ("extends".toList ++ (g₃ ++
      ("AbstractController".toList ++ (g₄ ++ ['{']))))))) ∧
    (∀ c ∈ g₁ ++ g₂ ++ g₃ ++ g₄, isBlank c = true) ∧ g₁ ≠ [] ∧ g₂ ≠ [] ∧ g₃ ≠ [] ∧
    IsMaximalRun g₁ name g₂ ∧ ∃ x, x ≠ [] ∧ name = x ++ "Controller".toList

def IsHeader (s lineBreak : Text) : Prop :=
  ∃ c i, s = c ++ (i ++ lineBreak) ∧ IsClassBrace c ∧ IsIndent i ∧ IsLineBreak lineBreak

/-! ## Reading a header -/

theorem isControllerName_iff {name : Text} :
    isControllerName name = true ↔ ∃ x, x ≠ [] ∧ name = x ++ "Controller".toList := by
  rw [isControllerName, Bool.and_eq_true, List.isSuffixOf_iff_suffix, decide_eq_true_eq]
  constructor
  · intro h
    obtain ⟨⟨x, rfl⟩, hlt⟩ := h
    rw [List.length_append] at hlt
    exact ⟨x, List.ne_nil_of_length_pos (by omega), rfl⟩
  · intro h
    obtain ⟨x, hx, rfl⟩ := h
    have := List.length_pos_iff.2 hx
    rw [List.length_append]
    exact ⟨⟨x, rfl⟩, by omega⟩

theorem isWord_of_mem_controller : ∀ c ∈ "Controller".toList, isWord c = true :=
  List.all_eq_true.1 (by decide)

theorem afterControllerName?_eq_some_iff {s r : Text} : afterControllerName? s = some r ↔
    ∃ name, s = name ++ r ∧ isControllerName name = true ∧ (∀ c ∈ name, isWord c = true) ∧
      ∀ c ∈ r.head?, isWord c = false := by
  rw [afterControllerName?, Option.ite_none_right_eq_some, Option.some.injEq]
  constructor
  · intro h'
    obtain ⟨hname, rfl⟩ := h'
    refine ⟨_, (List.takeWhile_append_dropWhile).symm, hname, fun c => List.mem_takeWhile_imp, ?_⟩
    intro c hc
    have := List.head?_dropWhile_not isWord s
    rw [Option.mem_def.1 hc] at this
    exact this
  · intro h'
    obtain ⟨name, rfl, hname, hword, hstop⟩ := h'
    obtain ⟨htake, hdrop⟩ := takeWhile_append_stop hword hstop
    rw [htake]
    exact ⟨hname, hdrop⟩

/-- The name is read as far as it goes. With a blank behind it, that is every way to read it. -/
theorem afterControllerName?_eq_some_iff_of_blank {s r : Text} (hr : ∀ c ∈ r.head?, isBlank c = true) :
    afterControllerName? s = some r ↔
      ∃ x, x ≠ [] ∧ (∀ c ∈ x, isWord c = true) ∧ s = x ++ ("Controller".toList ++ r) := by
  have hstop : ∀ c ∈ r.head?, isWord c = false := fun c hc => isWord_of_isBlank (hr c hc)
  rw [afterControllerName?_eq_some_iff]
  constructor
  · intro h
    obtain ⟨_, rfl, hname, hword, -⟩ := h
    obtain ⟨x, hx, rfl⟩ := isControllerName_iff.1 hname
    exact ⟨x, hx, fun c hc => hword c (List.mem_append_left _ hc), List.append_assoc ..⟩
  · intro h
    obtain ⟨x, hx, hword, rfl⟩ := h
    refine ⟨_, (List.append_assoc ..).symm, isControllerName_iff.2 ⟨x, hx, rfl⟩, fun c hc => ?_, hstop⟩
    exact (List.mem_append.1 hc).elim (hword c) (isWord_of_mem_controller c)

theorem classBrace_after?_iff {s body : Text} :
    classBrace.after? s = some body ↔ ∃ c, IsClassBrace c ∧ s = c ++ body := by
  have hblank : ∀ {g : Text}, g ≠ [] → (∀ c ∈ g, isBlank c = true) → ∀ u : Text,
      ∀ c ∈ (g ++ u).head?, isBlank c = true := by
    intro g hn hg u c hc
    rw [List.head?_append_of_ne_nil _ hn] at hc
    exact hg c (List.mem_of_head? hc)
  simp only [classBrace, Phrase.after?, afterLinks?, Link.after?, Token.after?,
    Option.bind_eq_some_iff, after?_eq_some_iff, afterGap?_eq_some_iff, Option.some.injEq]
  constructor
  · intro h'
    obtain ⟨_, rfl, _, ⟨_, ⟨g₁, rfl, h₁, hn₁, -⟩, hread⟩, _, ⟨_, ⟨g₂, rfl, h₂, hn₂, -⟩, rfl⟩, _,
      ⟨_, ⟨g₃, rfl, h₃, hn₃, -⟩, rfl⟩, _, ⟨_, ⟨g₄, rfl, h₄, -⟩, rfl⟩, rfl⟩ := h'
    obtain ⟨x, hx, hword, rfl⟩ :=
      (afterControllerName?_eq_some_iff_of_blank (hblank (hn₂ trivial) h₂ _)).1 hread
    refine ⟨_, ⟨g₁, _, g₂, g₃, g₄, rfl, fun c hc => ?_, hn₁ trivial, hn₂ trivial, hn₃ trivial,
      ⟨fun c hc => (List.mem_append.1 hc).elim (hword c) (isWord_of_mem_controller c),
        fun c hc => isWord_of_isBlank (h₁ c (List.mem_of_getLast? hc)),
        fun c hc => isWord_of_isBlank (h₂ c (List.mem_of_head? hc))⟩, x, hx, rfl⟩, ?_⟩
    · simp only [List.mem_append] at hc
      rcases hc with ((hc | hc) | hc) | hc
      · exact h₁ c hc
      · exact h₂ c hc
      · exact h₃ c hc
      · exact h₄ c hc
    · simp only [List.append_assoc, List.singleton_append]
  · intro h'
    obtain ⟨_, ⟨g₁, _, g₂, g₃, g₄, rfl, hg, hn₁, hn₂, hn₃, hrun, x, hx, rfl⟩, rfl⟩ := h'
    simp only [List.append_assoc, List.singleton_append, List.mem_append, or_imp, forall_and] at hg ⊢
    obtain ⟨h₁, h₂, h₃, h₄⟩ := hg
    have hword : ∀ c ∈ x, isWord c = true := fun c hc => hrun.word c (List.mem_append_left _ hc)
    have hstart : ∀ u : Text, ∀ c ∈ (x ++ u).head?, isBlank c = false := by
      intro u c hc
      rw [List.head?_append_of_ne_nil _ hx] at hc
      have hc := hword c (List.mem_of_head? hc)
      by_contra hblank
      rw [isWord_of_isBlank (Bool.not_eq_false _ ▸ hblank)] at hc
      cases hc
    exact ⟨_, rfl, _, ⟨_, ⟨g₁, rfl, h₁, fun _ => hn₁, hstart _⟩,
        (afterControllerName?_eq_some_iff_of_blank (hblank hn₂ h₂ _)).2 ⟨x, hx, hword, rfl⟩⟩, _,
      ⟨_, ⟨g₂, rfl, h₂, fun _ => hn₂, isBlank_head?_append (d := 'e') rfl (by decide) _⟩, rfl⟩, _,
      ⟨_, ⟨g₃, rfl, h₃, fun _ => hn₃, isBlank_head?_append (d := 'A') rfl (by decide) _⟩, rfl⟩, _,
      ⟨_, ⟨g₄, rfl, h₄, by simp, isBlank_head?_append (w := ['{']) (d := '{') rfl (by decide) _⟩, rfl⟩,
      rfl⟩

theorem classHeader?_eq_some_iff {s : Text} {h : ClassHeader} :
    classHeader? s = some h ↔ IsHeader h.header h.lineBreak ∧ s = h.header ++ h.rest := by
  simp only [classHeader?, afterClassBrace?_eq, Option.bind_eq_bind, Option.pure_def,
    Option.bind_eq_some_iff, Option.some.injEq, Prod.exists, lineBreak?_eq_some_iff,
    classBrace_after?_iff]
  constructor
  · intro h'
    obtain ⟨body, ⟨c, hc, rfl⟩, b, r, ⟨hb, hr⟩, rfl⟩ := h'
    have hsplit : c ++ body = c ++ (body.takeWhile isIndent ++ b) ++ r := by
      rw [List.append_assoc, List.append_assoc, ← hr, List.takeWhile_append_dropWhile]
    have htake : (c ++ body).take ((c ++ body).length - r.length) =
        c ++ (body.takeWhile isIndent ++ b) := by
      rw [hsplit, List.length_append, Nat.add_sub_cancel, List.take_left' rfl]
    simp only [htake]
    exact ⟨⟨c, _, rfl, hc, fun _ => List.mem_takeWhile_imp, hb⟩, hsplit⟩
  · obtain ⟨header, b, r⟩ := h
    intro h'
    obtain ⟨⟨c, i, hheader, hc, hi, hb⟩, rfl⟩ := h'
    dsimp only at hheader hb ⊢
    subst hheader
    have hstop : ∀ x ∈ (b ++ r).head?, isIndent x = false := by
      rcases hb with rfl | rfl <;> simp <;> decide
    have hdrop := (takeWhile_append_stop hi hstop).2
    refine ⟨i ++ (b ++ r), ⟨c, hc, by simp only [List.append_assoc]⟩, b, r, ⟨hb, hdrop⟩, ?_⟩
    rw [List.length_append, Nat.add_sub_cancel, List.take_left' rfl]

/-- Where a header ends, and in which line break, is said by the text it starts. -/
theorem IsHeader.unique {h h' lineBreak lineBreak' r r' : Text} (hh : IsHeader h lineBreak)
    (hh' : IsHeader h' lineBreak') (heq : h ++ r = h' ++ r') : h' = h ∧ lineBreak' = lineBreak := by
  have hread : classHeader? (h ++ r) = some ⟨h, lineBreak, r⟩ := classHeader?_eq_some_iff.2 ⟨hh, rfl⟩
  have hread' : classHeader? (h ++ r) = some ⟨h', lineBreak', r'⟩ :=
    classHeader?_eq_some_iff.2 ⟨hh', heq⟩
  have hsame := Option.some.inj (hread'.symm.trans hread)
  exact ⟨congrArg (·.header) hsame, congrArg (·.lineBreak) hsame⟩

/-! ## The first header -/

def StartsHeader (s : Text) : Prop := ∃ h lineBreak r, s = h ++ r ∧ IsHeader h lineBreak

theorem startsHeader_iff {s : Text} : StartsHeader s ↔ (classHeader? s).isSome = true := by
  rw [Option.isSome_iff_exists]
  constructor
  · intro h'
    obtain ⟨h, lineBreak, r, hs, hh⟩ := h'
    exact ⟨⟨h, lineBreak, r⟩, classHeader?_eq_some_iff.2 ⟨hh, hs⟩⟩
  · intro h'
    obtain ⟨h, hread⟩ := h'
    obtain ⟨hh, hs⟩ := classHeader?_eq_some_iff.1 hread
    exact ⟨_, _, _, hs, hh⟩

theorem firstHeader?_eq_some_iff {s u : Text} {h : ClassHeader} :
    firstHeader? s = some (u, h) ↔ s = u ++ (h.header ++ h.rest) ∧ IsHeader h.header h.lineBreak ∧
      ∀ x y, u = x ++ y → y ≠ [] → ¬ StartsHeader (y ++ (h.header ++ h.rest)) := by
  simp only [startsHeader_iff, Bool.not_eq_true, Option.isSome_eq_false_iff, Option.isNone_iff_eq_none]
  rw [firstHeader?, leftmost_place_eq_some_iff]
  constructor
  · intro h'
    obtain ⟨r, rfl, hread, hfirst⟩ := h'
    obtain ⟨hh, rfl⟩ := classHeader?_eq_some_iff.1 hread
    exact ⟨rfl, hh, hfirst⟩
  · intro h'
    obtain ⟨rfl, hh, hfirst⟩ := h'
    exact ⟨_, rfl, classHeader?_eq_some_iff.2 ⟨hh, rfl⟩, hfirst⟩

theorem firstHeader?_isSome_iff_starts {s : Text} :
    (firstHeader? s).isSome = true ↔ ∃ u y, s = u ++ y ∧ StartsHeader y := by
  rw [← not_iff_not, Option.not_isSome_iff_eq_none, firstHeader?, leftmost_eq_none_iff]
  simp only [Option.map_eq_none_iff, startsHeader_iff, not_exists, not_and,
    Option.not_isSome_iff_eq_none]

/-- A constructor is added exactly where a class header stands in the source. It goes behind the first
header, with the line break of that header in it, and the rest of the source stays as it is. -/
theorem Dependency.addConstructor_first (d : Dependency) (s : Text) :
    ((d.addConstructor s).isSome = true ↔
      ∃ u h lineBreak r, s = u ++ (h ++ r) ∧ IsHeader h lineBreak) ∧
    ∀ u h lineBreak r, s = u ++ (h ++ r) → IsHeader h lineBreak →
      (∀ x y, u = x ++ y → y ≠ [] → ¬ StartsHeader (y ++ (h ++ r))) →
        (∀ h' lineBreak' r', IsHeader h' lineBreak' → h ++ r = h' ++ r' →
          h' = h ∧ lineBreak' = lineBreak) ∧
        d.addConstructor s = some (u ++ (h ++ (d.newConstructor lineBreak ++ r))) := by
  constructor
  · rw [addConstructor_eq, Option.isSome_map, firstHeader?_isSome_iff_starts]
    constructor
    · intro h'
      obtain ⟨u, _, rfl, h, lineBreak, r, rfl, hh⟩ := h'
      exact ⟨u, h, lineBreak, r, rfl, hh⟩
    · intro h'
      obtain ⟨u, h, lineBreak, r, rfl, hh⟩ := h'
      exact ⟨u, _, rfl, h, lineBreak, r, rfl, hh⟩
  · intro u h lineBreak r hs hh hfirst
    refine ⟨fun h' lineBreak' r' hh' heq => hh.unique hh' heq, ?_⟩
    have hplace : firstHeader? s = some (u, ⟨h, lineBreak, r⟩) :=
      firstHeader?_eq_some_iff.2 ⟨hs, hh, hfirst⟩
    rw [addConstructor_eq, hplace, Option.map_some, List.append_assoc]

/-- A header whose name is no longer than it must end, and behind it one of a class with an accent in its
name, in lines that end in carriage returns. -/
def accentedController : Text := joinWith ['\r', '\n'] [
  "abstract class Controller extends AbstractController \x7b".toList,
  "\x7d".toList,
  "final class ÉlèveController extends AbstractController".toList,
  "\x7b\t".toList,
  "\x7d".toList]

theorem Dependency.addConstructor_first_accentedController :
    ∃ u h lineBreak r, accentedController = u ++ (h ++ r) ∧ IsHeader h lineBreak ∧
      (∀ x y, u = x ++ y → y ≠ [] → ¬ StartsHeader (y ++ (h ++ r))) ∧
      (∀ h' lineBreak' r', IsHeader h' lineBreak' → h ++ r = h' ++ r' →
        h' = h ∧ lineBreak' = lineBreak) ∧
      ({} : Dependency).addConstructor accentedController =
        some (u ++ (h ++ (({} : Dependency).newConstructor lineBreak ++ r))) := by
  have hsome : (firstHeader? accentedController).isSome = true := by decide +kernel
  obtain ⟨⟨u, h⟩, hplace⟩ := Option.isSome_iff_exists.1 hsome
  obtain ⟨hs, hh, hfirst⟩ := firstHeader?_eq_some_iff.1 hplace
  obtain ⟨hunique, hadd⟩ := (Dependency.addConstructor_first {} accentedController).2 u h.header
    h.lineBreak h.rest hs hh hfirst
  exact ⟨u, h.header, h.lineBreak, h.rest, hs, hh, hfirst, hunique, hadd⟩

end Wiring
