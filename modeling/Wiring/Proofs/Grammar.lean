import Wiring.Proofs.Parameter

/-!
# The grammar of open constructors

A parameter is added to a source exactly when a constructor of the open layout starts in it. It goes
to the first one, and what it is written like is read off the only split of that constructor. Main
statement: `Dependency.appendParameter_first`.
-/

namespace Wiring

/-! ## The split of a constructor -/

structure OpenConstructor.IsLaidOut (o : OpenConstructor) : Prop where
  fits : o.Fits
  name : ∃ g₁ g₂ g₃ l, o.head = "public".toList ++ (g₁ ++ ("function".toList ++ (g₂ ++
      ("__construct".toList ++ (g₃ ++ '(' :: l))))) ∧
    (∀ c ∈ g₁ ++ g₂ ++ g₃, isBlank c = true) ∧ g₁ ≠ [] ∧ g₂ ≠ []

/-- A list is cut at its last comma in one way. -/
theorem OpenConstructor.Fits.eq {o o' : OpenConstructor} (h : o.Fits) (h' : o'.Fits)
    (htext : o.text = o'.text) : o = o' :=
  Option.some.inj ((openList?_eq_some_iff.2 ⟨h, rfl⟩).symm.trans (openList?_eq_some_iff.2 ⟨h', htext⟩))

theorem openConstructor?_eq_some_iff {s : Text} {o : OpenConstructor} :
    openConstructor? s = some o ↔ o.IsLaidOut ∧ s = o.text := by
  constructor
  · intro h
    obtain ⟨hs, hfits, n, l, hhead, -, hname⟩ := openConstructor?_parts h
    obtain ⟨g₁, g₂, g₃, hn, hg⟩ := publicConstructor_after?_iff.1 (hname l)
    exact ⟨⟨hfits, g₁, g₂, g₃, l, hhead.trans hn, hg⟩, hs⟩
  · intro h'
    obtain ⟨⟨hfits, g₁, g₂, g₃, l, hhead, hg⟩, rfl⟩ := h'
    have hlist : OpenConstructor.Fits { o with head := l } :=
      ⟨fun hmem => hfits.head (by simp [hhead, hmem]), hfits.comma, hfits.lineBreak, hfits.closing⟩
    have hname : publicConstructor.after? o.text = some (OpenConstructor.text { o with head := l }) :=
      publicConstructor_after?_iff.2 ⟨g₁, g₂, g₃, by simp [OpenConstructor.text, hhead], hg⟩
    have hsome := openConstructor?_isSome_iff.2
      ⟨_, hname, by rw [openList?_eq_some_iff.2 ⟨hlist, rfl⟩, Option.isSome_some]⟩
    obtain ⟨o', ho'⟩ := Option.isSome_iff_exists.1 hsome
    obtain ⟨htext, hfits', -⟩ := openConstructor?_parts ho'
    rw [ho', hfits.eq hfits' htext]

theorem firstOpen?_eq_some_iff {s u : Text} {o : OpenConstructor} :
    firstOpen? s = some (u, o) ↔ s = u ++ o.text ∧ o.IsLaidOut ∧
      ∀ x y, u = x ++ y → y ≠ [] → ¬ StartsOpen (y ++ o.text) := by
  simp only [startsOpen_iff, Bool.not_eq_true, Option.isSome_eq_false_iff, Option.isNone_iff_eq_none]
  constructor
  · intro h
    obtain ⟨hs, ho, hfirst⟩ := firstOpen?_eq_some h
    exact ⟨hs, (openConstructor?_eq_some_iff.1 ho).1, hfirst⟩
  · intro h'
    obtain ⟨rfl, ho, hfirst⟩ := h'
    exact leftmost_place_eq_some_iff.2 ⟨_, rfl, openConstructor?_eq_some_iff.2 ⟨ho, rfl⟩, hfirst⟩

/-! ## Indentation -/

/-- Whether `i` indents the last line of a text, or is of eight spaces when the text has one line. -/
def IsParameterIndent (s i : Text) : Prop :=
  ('\n' ∉ s ∧ i = List.replicate 8 ' ') ∨
    ∃ x line, s = x ++ '\n' :: (i ++ line) ∧ '\n' ∉ line ∧ IsIndent i ∧
      ∀ c ∈ line.head?, isIndent c = false

theorem lastLineIndent_append {l : Text} (hl : '\n' ∉ l) (x : Text) :
    lastLineIndent (x ++ '\n' :: l) = l.takeWhile isIndent := by
  have hline := takeWhile_append_stop (p := (· ≠ '\n')) (i := l.reverse) (r := '\n' :: x.reverse)
    (by simpa using fun c hc => ne_of_mem_of_not_mem hc hl) (by simp)
  rw [lastLineIndent, List.reverse_append, List.reverse_cons, List.append_assoc, List.singleton_append,
    hline.1, List.reverse_reverse]

theorem exists_lastLine {s : Text} (h : '\n' ∈ s) : ∃ x l, s = x ++ '\n' :: l ∧ '\n' ∉ l := by
  obtain ⟨l, x, hs, hl⟩ := List.eq_append_cons_of_mem (List.mem_reverse.2 h)
  refine ⟨x.reverse, l.reverse, ?_, by simpa using hl⟩
  rw [← List.reverse_reverse s, hs, List.reverse_append, List.reverse_cons, List.append_assoc,
    List.singleton_append]

theorem OpenConstructor.isParameterIndent_iff (o : OpenConstructor) {i : Text} :
    IsParameterIndent o.head i ↔ i = o.indent := by
  unfold IsParameterIndent indent
  by_cases hbreak : '\n' ∈ o.head
  · rw [if_pos hbreak, or_iff_right fun h => h.1 hbreak]
    constructor
    · intro h'
      obtain ⟨x, line, hs, hline, hi, hstop⟩ := h'
      have hl : '\n' ∉ i ++ line := fun hmem => (List.mem_append.1 hmem).elim
        (fun h => absurd (hi _ h) (by decide)) hline
      rw [hs, lastLineIndent_append hl, (takeWhile_append_stop hi hstop).1]
    · rintro rfl
      obtain ⟨x, l, hs, hl⟩ := exists_lastLine hbreak
      rw [hs, lastLineIndent_append hl]
      exact ⟨x, l.dropWhile isIndent, by rw [List.takeWhile_append_dropWhile],
        fun h => hl ((List.dropWhile_suffix _).subset h), fun _ => List.mem_takeWhile_imp,
        fun c hc => by simpa [Option.mem_def.1 hc] using List.head?_dropWhile_not isIndent l⟩
  · rw [if_neg hbreak, or_iff_left, and_iff_right hbreak]
    rintro ⟨x, line, hs, -⟩
    exact hbreak (by simp [hs])

/-! ## The constructor that is changed -/

/-- A source takes another parameter exactly when a constructor of the open layout starts in it. The first
of them has one split, and the parameter gets a line of its own behind the line break of the split. -/
theorem Dependency.appendParameter_first (d : Dependency) (s : Text) :
    ((d.appendParameter s).isSome = true ↔ ∃ u r, s = u ++ r ∧ StartsOpen r) ∧
      ∀ u r, s = u ++ r → StartsOpen r →
        (∀ x y, u = x ++ y → y ≠ [] → ¬ StartsOpen (y ++ r)) →
          ∃ (o : OpenConstructor) (i : Text), o.IsLaidOut ∧ r = o.text ∧
            (∀ o' : OpenConstructor, o'.IsLaidOut → r = o'.text → o' = o) ∧
            (∀ j, IsParameterIndent o.head j ↔ j = i) ∧
            d.appendParameter s = some (u ++ (o.head ++ o.comma ++ o.lineBreak ++
              (i ++ d.parameter ++ o.lineBreak ++ if o.closing.head? = some ')' then i else []) ++
              o.closing ++ o.rest)) := by
  constructor
  · rw [appendParameter_eq, Option.isSome_map, firstOpen?_isSome_iff_layout, hasOpenConstructor_iff]
  · intro u r hs hr hfirst
    obtain ⟨o, ho⟩ := Option.isSome_iff_exists.1 (startsOpen_iff.1 hr)
    obtain ⟨hlaid, rfl⟩ := openConstructor?_eq_some_iff.1 ho
    refine ⟨o, o.indent, hlaid, rfl, fun o' h' htext => h'.fits.eq hlaid.fits htext.symm,
      fun j => o.isParameterIndent_iff, ?_⟩
    rw [appendParameter_eq, firstOpen?_eq_some_iff.2 ⟨hs, hlaid, hfirst⟩, Option.map_some]
    simp only [OpenConstructor.append, List.append_assoc]

/-- Two constructors, of which the first has its parentheses closed at once. The list of the other ends
in a carriage return and at column zero. -/
def secondConstructor : Text := joinWith ['\r', '\n'] [
  "public function __construct() \x7b\x7d".toList,
  "public function __construct(".toList,
  "\tprivate Clock $clock, ".toList,
  ") \x7b\x7d".toList]

theorem Dependency.appendParameter_first_secondConstructor :
    ∃ u r, secondConstructor = u ++ r ∧ ∃ (o : OpenConstructor) (i : Text),
      o.IsLaidOut ∧ r = o.text ∧ (∀ o' : OpenConstructor, o'.IsLaidOut → r = o'.text → o' = o) ∧
      (∀ j, IsParameterIndent o.head j ↔ j = i) ∧
      ({} : Dependency).appendParameter secondConstructor = some (u ++ (o.head ++ o.comma ++
        o.lineBreak ++ (i ++ ({} : Dependency).parameter ++ o.lineBreak ++
          if o.closing.head? = some ')' then i else []) ++ o.closing ++ o.rest)) := by
  have hsome : (firstOpen? secondConstructor).isSome = true := by decide +kernel
  obtain ⟨⟨u, o⟩, ho⟩ := Option.isSome_iff_exists.1 hsome
  obtain ⟨hs, hlaid, hfirst⟩ := firstOpen?_eq_some_iff.1 ho
  have hr : StartsOpen o.text := by
    rw [startsOpen_iff, openConstructor?_eq_some_iff.2 ⟨hlaid, rfl⟩, Option.isSome_some]
  exact ⟨u, o.text, hs, (Dependency.appendParameter_first {} _).2 u _ hs hr hfirst⟩

end Wiring
