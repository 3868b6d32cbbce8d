import Wiring.Proofs.ClassHeader
import Wiring.Proofs.OpenInsertion

/-!
# Another parameter

The parameter that is added to an open constructor is a quiet insertion. So it is recognised exactly
when the place lies in the code of the parameters of the class constructor: `isTaken_append_iff`.
-/

namespace Wiring

def OpenConstructor.before (o : OpenConstructor) : Text := o.head ++ (o.comma ++ o.lineBreak)

def OpenConstructor.after (o : OpenConstructor) : Text := o.closing ++ o.rest

/-- The line of a dependency's parameter, and the indentation of the parenthesis. -/
def Dependency.line (d : Dependency) (o : OpenConstructor) : Text :=
  o.indent ++ (d.parameter ++ (o.lineBreak ++ o.closingIndent))

theorem OpenConstructor.before_append_after (o : OpenConstructor) : o.before ++ o.after = o.text := by
  simp [before, after, text]

theorem Dependency.append_parameter (d : Dependency) (o : OpenConstructor) :
    o.append d.parameter = o.before ++ (d.line o ++ o.after) := by
  simp only [OpenConstructor.append, OpenConstructor.before, OpenConstructor.after, line,
    OpenConstructor.closingIndent, List.append_assoc]

theorem Dependency.appendParameter_eq (d : Dependency) (s : Text) :
    d.appendParameter s = (firstOpen? s).map fun p => p.1 ++ p.2.append d.parameter := by
  rw [appendParameter, firstOpen?, ← leftmost_map]
  simp [Option.map_map, Function.comp_def]

/-! ## The characters of a parameter -/

def promotion : Text := "private readonly ".toList

theorem Dependency.parameter_eq (d : Dependency) :
    d.parameter = promotion ++ (d.type ++ (' ' :: '$' :: d.name)) := by
  have h : " $".toList ++ d.name = ' ' :: '$' :: d.name := rfl
  rw [← h, ← List.append_assoc, ← List.append_assoc]
  rfl

theorem Dependency.IsNamed.mem_parameter {d : Dependency} (hd : d.IsNamed) {c : Char}
    (hc : c ∈ d.parameter) : isAsciiWord c = true ∨ c = ' ' ∨ c = '$' := by
  simp only [parameter_eq, List.mem_append, List.mem_cons] at hc
  rcases hc with h | h | rfl | rfl | h
  · have := (List.all_iff_forall_prop.1 (by decide) : ∀ c ∈ promotion, isAsciiWord c = true ∨ c = ' ') c h
    exact this.imp_right .inl
  · exact .inl ((isAsciiWord_of_isIdentifier hd.1).2 c h)
  · exact .inr (.inl rfl)
  · exact .inr (.inr rfl)
  · exact .inl ((isAsciiWord_of_isIdentifier hd.2).2 c h)

theorem Dependency.IsNamed.notMem_parameter {d : Dependency} (hd : d.IsNamed) {c : Char}
    (hc : isAsciiWord c = false ∧ c ≠ ' ' ∧ c ≠ '$') : c ∉ d.parameter := fun h => by
  rcases hd.mem_parameter h with h | h | h
  · simp [h] at hc
  · exact hc.2.1 h
  · exact hc.2.2 h

theorem Dependency.IsNamed.getLast?_parameter {d : Dependency} (hd : d.IsNamed) :
    ∃ e, d.parameter.getLast? = some e ∧ isAsciiWord e = true := by
  obtain ⟨hn, hnw⟩ := isAsciiWord_of_isIdentifier hd.2
  refine ⟨d.name.getLast hn, ?_, hnw _ (List.getLast_mem hn)⟩
  have : d.parameter = (promotion ++ (d.type ++ [' ', '$'])) ++ d.name := by simp [parameter_eq]
  rw [this, List.getLast?_append, List.getLast?_eq_some_getLast hn, Option.some_or]

theorem Dependency.IsNamed.mem_line {d : Dependency} (hd : d.IsNamed) {o : OpenConstructor}
    (ho : o.Fits) {c : Char} (hc : c ∈ d.line o) :
    isAsciiWord c = true ∨ isBlank c = true ∨ c = '$' := by
  simp only [line, List.mem_append] at hc
  rcases hc with h | h | h | h
  · exact .inr (.inl (isBlank_of_isIndent (o.isIndent_indent c h)))
  · refine (hd.mem_parameter h).imp_right (.imp_left ?_)
    rintro rfl
    decide
  · exact .inr (.inl (ho.lineBreak.isBlank c h))
  · exact .inr (.inl (isBlank_of_isIndent (o.isIndent_closingIndent c h)))

theorem Dependency.IsNamed.notMem_line {d : Dependency} (hd : d.IsNamed) {o : OpenConstructor}
    (ho : o.Fits) {c : Char} (hc : isAsciiWord c = false ∧ isBlank c = false ∧ c ≠ '$') :
    c ∉ d.line o := fun h => by
  rcases hd.mem_line ho h with h | h | h
  · simp [h] at hc
  · simp [h] at hc
  · exact hc.2.2 h

theorem isEdge_of_isIndent {c : Char} (h : isIndent c = true) : isEdge c = true := by
  simp only [isIndent, Bool.or_eq_true, beq_iff_eq] at h
  rcases h with rfl | rfl <;> rfl

theorem IsLineBreak.getLast? {b : Text} (h : IsLineBreak b) : b.getLast? = some '\n' := by
  rcases h with rfl | rfl <;> rfl

theorem OpenConstructor.Fits.getLast?_before {o : OpenConstructor} (h : o.Fits) (u : Text) :
    (u ++ o.before).getLast? = some '\n' := by
  simp [before, List.getLast?_append, h.lineBreak.getLast?]

theorem Dependency.isEdge_of_getLast?_line {d : Dependency} {o : OpenConstructor} (ho : o.Fits) :
    ∀ e ∈ (d.line o).getLast?, isEdge e = true := by
  intro e he
  simp only [line, ← List.append_assoc] at he
  rw [List.getLast?_append] at he
  cases hi : o.closingIndent.getLast? with
  | some c =>
    rw [hi] at he
    obtain rfl := Option.some.inj he
    exact isEdge_of_isIndent (o.isIndent_closingIndent c (List.mem_of_getLast? hi))
  | none =>
    rw [hi, List.getLast?_append, ho.lineBreak.getLast?] at he
    obtain rfl := Option.some.inj he
    rfl

theorem OpenConstructor.Fits.breaks_after {o : OpenConstructor} (h : o.Fits) : Breaks o.after := by
  obtain ⟨j, g, hc, hj, -⟩ := h.closing
  rw [after, hc, List.append_assoc]
  exact .close fun c hc => isBlank_of_isIndent (hj c hc)

theorem Dependency.IsNamed.quiet_line {d : Dependency} (hd : d.IsNamed) {o : OpenConstructor}
    (ho : o.Fits) (u : Text) : QuietInsertion (u ++ o.before) (d.line o) o.after where
  before e he := by
    rw [ho.getLast?_before u] at he
    exact .inl (Option.some.inj he).symm
  last := isEdge_of_getLast?_line ho
  inert := by
    refine ⟨fun c hc => ⟨?_, ?_, ?_, ?_⟩, fun e he => looksAhead_of_isEdge (isEdge_of_getLast?_line ho e he)⟩ <;>
      (rintro rfl; exact hd.notMem_line ho (by decide) hc)
  flat := ⟨hd.notMem_line ho (by decide), hd.notMem_line ho (by decide),
    hd.notMem_line ho (by decide), hd.notMem_line ho (by decide)⟩
  region := regionAt_isOpen_of_lineEnd (ho.getLast?_before u) o.after
  breaks _ _ _ := by
    refine ⟨?_, ho.breaks_after⟩
    rw [line, parameter_eq, List.append_assoc, List.append_assoc]
    exact .word (k := "private".toList) (c := ' ')
      (fun c hc => isBlank_of_isIndent (o.isIndent_indent c hc)) (by simp) (by decide)
  breaks_after _ _ _ := ho.breaks_after

/-! ## The source with the line -/

section
variable {d : Dependency} (hd : d.IsNamed) {s u : Text} {o : OpenConstructor}
  (h : firstOpen? s = some (u, o))
include hd h

theorem Dependency.append_eq : s = u ++ o.before ++ o.after ∧
    u ++ o.append d.parameter = u ++ o.before ++ (d.line o ++ o.after) ∧
    QuietInsertion (u ++ o.before) (d.line o) o.after := by
  obtain ⟨rfl, ho, -⟩ := firstOpen?_eq_some h
  refine ⟨?_, ?_, hd.quiet_line (openConstructor?_parts ho).2.1 u⟩
  · rw [List.append_assoc, o.before_append_after]
  · rw [d.append_parameter, List.append_assoc]

theorem Dependency.declaresConstructor_append :
    declaresConstructor (u ++ o.append d.parameter) = declaresConstructor s := by
  obtain ⟨hs, ht, hq⟩ := append_eq hd h
  rw [hs, ht]
  exact hq.declaresConstructor_eq

theorem Dependency.firstHeader?_append_eq_none_iff :
    firstHeader? (u ++ o.append d.parameter) = none ↔ firstHeader? s = none := by
  obtain ⟨hs, ht, hq⟩ := append_eq hd h
  rw [hs, ht]
  exact hq.firstHeader?_eq_none_iff

theorem Dependency.firstOpen?_append_parameter_eq_none_iff :
    firstOpen? (u ++ o.append d.parameter) = none ↔ firstOpen? o.rest = none := by
  obtain ⟨e, he, hew⟩ := hd.getLast?_parameter
  refine firstOpen?_append_eq_none_iff h (hd.notMem_parameter (by decide)) he
    ⟨isBlank_of_isAsciiWord hew, ?_⟩
  rintro rfl
  exact absurd hew (by decide)

/-- A parameter that is added is recognised where the dependency was taken before, or in the code of the
parameters of the class constructor. -/
theorem Dependency.isTaken_append_iff_or :
    d.isTaken (u ++ o.append d.parameter) = true ↔
      d.isTaken s = true ∨ InParameters (u ++ o.before) o.after := by
  obtain ⟨hs, happend, hq⟩ := append_eq hd h
  obtain ⟨-, ho, -⟩ := firstOpen?_eq_some h
  have hf := (openConstructor?_parts ho).2.1
  have hline : d.line o = (o.indent ++ promotion) ++
      (d.type ++ (' ' :: '$' :: (d.name ++ (o.lineBreak ++ o.closingIndent)))) := by
    simp only [line, parameter_eq, List.append_assoc, List.cons_append]
  rw [happend, hline, hs]
  rw [hline] at hq
  have hpromotion : promotion.getLast? = some ' ' := by decide
  obtain ⟨c, b, hb, hc⟩ : ∃ c b, o.lineBreak = c :: b ∧ isWord c = false := by
    rcases hf.lineBreak with hb | hb <;> exact ⟨_, _, hb, by decide⟩
  refine hq.isTaken_iff hd ?_ ?_ ?_ ?_
  · exact List.append_ne_nil_of_right_ne_nil _ (by decide)
  · simp [hb]
  · rw [List.getLast?_append, hpromotion, Option.some_or]
    decide
  · rw [hb]
    exact hc

theorem Dependency.isTaken_append_iff (ht : d.isTaken s = false) :
    d.isTaken (u ++ o.append d.parameter) = true ↔ InParameters (u ++ o.before) o.after := by
  rw [isTaken_append_iff_or hd h, ht]
  simp

end

end Wiring
