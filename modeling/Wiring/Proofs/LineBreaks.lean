import Wiring.Proofs.Preservation

/-!
# Line breaks

An injection inserts lines, and parts them with a line break of the source. So the line breaks of a
source that has one kind of them stay of that kind: `lineBreaks_of_injected`.
-/

namespace Wiring

/-! ## Texts with one kind of line breaks -/

/-- Whether every line feed of a text comes after a carriage return, or none does. -/
def HasReturns (returned : Bool) (s : Text) : Prop :=
  ∀ a b, s = a ++ '\n' :: b → (a.getLast? = some '\r' ↔ returned = true)

def lineBreakOf (returned : Bool) : Text := if returned then ['\r', '\n'] else ['\n']

def IsLine (s : Text) : Prop := '\r' ∉ s ∧ '\n' ∉ s

instance (s : Text) : Decidable (IsLine s) := inferInstanceAs (Decidable (_ ∧ _))

variable {returned : Bool}

theorem hasReturns_true_iff {s : Text} :
    HasReturns true s ↔ ∀ a b, s = a ++ '\n' :: b → a.getLast? = some '\r' := by
  simp [HasReturns]

theorem hasReturns_false_iff {s : Text} : HasReturns false s ↔ ¬ ['\r', '\n'] <:+: s := by
  simp only [HasReturns, Bool.false_eq_true, iff_false]
  constructor
  · intro h h'
    obtain ⟨a, b, rfl⟩ := h'
    exact h (a ++ ['\r']) b (by simp) List.getLast?_concat
  · intro h a b hs ha
    obtain ⟨a, rfl⟩ := List.getLast?_eq_some_iff.1 ha
    exact h ⟨a, b, by simp [hs]⟩

theorem lineBreakOf_isLineBreak (returned : Bool) : IsLineBreak (lineBreakOf returned) := by
  cases returned
  · exact .inl rfl
  · exact .inr rfl

theorem HasReturns.of_isLine {s : Text} (h : IsLine s) : HasReturns returned s := by
  rintro a b rfl
  exact absurd (by simp) h.2

theorem hasReturns_lineBreakOf (returned : Bool) : HasReturns returned (lineBreakOf returned) := by
  intro a b h
  have h := h.symm
  cases returned with
  | false =>
    have ha : a = [] := by
      cases a with
      | nil => rfl
      | cons c a => simp [lineBreakOf] at h
    simp [ha]
  | true =>
    have ha : a = ['\r'] := by
      rcases a with _ | ⟨c, _ | ⟨d, a⟩⟩ <;> simp_all [lineBreakOf]
    simp [ha]

/-- A line break of a text is of the text's kind. -/
theorem HasReturns.eq_lineBreakOf {x b y : Text} (h : HasReturns returned (x ++ (b ++ y)))
    (hb : IsLineBreak b) (hx : x.getLast? ≠ some '\r') : b = lineBreakOf returned := by
  rcases hb with rfl | rfl
  · cases returned with
    | false => rfl
    | true => exact absurd ((h x y rfl).2 rfl) hx
  · cases returned with
    | false => exact absurd ((h (x ++ ['\r']) y (by simp)).1 List.getLast?_concat) (by decide)
    | true => rfl

/-- Texts with one kind of line breaks can be put together where no carriage return comes last. -/
theorem HasReturns.insert {a w b : Text} (h : HasReturns returned (a ++ b))
    (hw : HasReturns returned w) (ha : a.getLast? ≠ some '\r') (hl : w.getLast? ≠ some '\r') :
    HasReturns returned (a ++ (w ++ b)) := by
  have hlast : ∀ {u v : Text}, u.getLast? ≠ some '\r' →
      ((u ++ v).getLast? = some '\r' ↔ v.getLast? = some '\r') := fun {u v} hu => by
    rw [List.getLast?_append]
    cases v.getLast? <;> simp [hu]
  intro x y hxy
  rcases append_split_cases hxy with ⟨z, hz, rfl, hy⟩ | ⟨v, z, hz, rfl, rfl, hy⟩ | ⟨v, rfl, rfl⟩
  · obtain ⟨c, z, rfl⟩ := List.exists_cons_of_ne_nil hz
    obtain rfl := (List.cons.inj hy).1
    exact h x (z ++ b) (by simp)
  · obtain ⟨c, z, rfl⟩ := List.exists_cons_of_ne_nil hz
    obtain rfl := (List.cons.inj hy).1
    rw [hlast ha]
    exact hw v z rfl
  · have hv := h (a ++ v) y (by simp)
    rw [hlast ha] at hv
    rw [hlast ha, hlast hl]
    exact hv

/-- Lines have the line breaks that are put between them. -/
theorem hasReturns_joinWith (returned : Bool) {lines : List Text} (h : ∀ l ∈ lines, IsLine l) :
    HasReturns returned (joinWith (lineBreakOf returned) lines) ∧
      (joinWith (lineBreakOf returned) lines).getLast? ≠ some '\r' := by
  have hline : ∀ {l : Text}, IsLine l → l.getLast? ≠ some '\r' :=
    fun hl he => hl.1 (List.mem_of_getLast? he)
  have hbreak : (lineBreakOf returned).getLast? = some '\n' :=
    (lineBreakOf_isLineBreak returned).getLast?
  fun_induction joinWith (lineBreakOf returned) lines with
  | case1 => exact ⟨.of_isLine ⟨nofun, nofun⟩, nofun⟩
  | case2 s => exact ⟨.of_isLine (h s (by simp)), hline (h s (by simp))⟩
  | case3 s t ss ih =>
    obtain ⟨hjoin, hlast⟩ := ih fun l hl => h l (by simp [hl])
    have hs := h s (by simp)
    constructor
    · rw [List.append_assoc]
      refine .insert (w := lineBreakOf returned) ?_ (hasReturns_lineBreakOf returned) (hline hs) ?_
      · exact HasReturns.insert (a := []) hjoin (.of_isLine hs) nofun (hline hs)
      · simp [hbreak]
    · rw [List.getLast?_append, List.getLast?_append, hbreak]
      cases he : (joinWith (lineBreakOf returned) (t :: ss)).getLast? with
      | none => simp
      | some e => simpa [he] using hlast

/-! ## Insertions of lines -/

def InsertsLines (lineBreak s t : Text) : Prop :=
  ∃ a lines b, s = a ++ b ∧ t = a ++ (joinWith lineBreak lines ++ b) ∧ (∀ l ∈ lines, IsLine l) ∧
    a.getLast? ≠ some '\r'

theorem InsertsLines.hasReturns {s t : Text} (h : InsertsLines (lineBreakOf returned) s t)
    (hs : HasReturns returned s) : HasReturns returned t := by
  obtain ⟨a, lines, b, rfl, rfl, hlines, ha⟩ := h
  obtain ⟨hjoin, hlast⟩ := hasReturns_joinWith returned hlines
  exact hs.insert hjoin ha hlast

theorem InsertsLines.mem {lineBreak s t : Text} {c : Char} (h : InsertsLines lineBreak s t)
    (hc : c ∈ s) : c ∈ t := by
  obtain ⟨a, lines, b, rfl, rfl, -⟩ := h
  rcases List.mem_append.1 hc with hc | hc
  · simp [hc]
  · simp [hc]

def HasBreak (lineBreak s : Text) : Prop :=
  IsLineBreak lineBreak ∧ ∃ x y, s = x ++ (lineBreak ++ y) ∧ x.getLast? ≠ some '\r'

theorem HasBreak.mem {lineBreak s : Text} (h : HasBreak lineBreak s) : '\n' ∈ s := by
  obtain ⟨hb, x, y, rfl, -⟩ := h
  simp [List.mem_of_getLast? hb.getLast?]

theorem HasReturns.eq_of_hasBreak {lineBreak s : Text} (hs : HasReturns returned s)
    (h : HasBreak lineBreak s) : lineBreak = lineBreakOf returned := by
  obtain ⟨hb, x, y, rfl, hx⟩ := h
  exact hs.eq_lineBreakOf hb hx

theorem isLine_of_isIndent {s : Text} (h : IsIndent s) : IsLine s :=
  ⟨fun hc => absurd (h _ hc) (by decide), fun hc => absurd (h _ hc) (by decide)⟩

theorem IsLine.append {s t : Text} (hs : IsLine s) (ht : IsLine t) : IsLine (s ++ t) :=
  ⟨by simp [hs.1, ht.1], by simp [hs.2, ht.2]⟩

theorem getLast?_ne_of_isIndent {c : Text} {z : Char} (hz : z ≠ '\r') {i : Text} (hi : IsIndent i) :
    (c ++ z :: i).getLast? ≠ some '\r' := by
  intro h
  rw [List.getLast?_append, List.getLast?_cons] at h
  cases he : i.getLast? with
  | none => simp [he, hz] at h
  | some e =>
    simp only [he, Option.getD_some, Option.some_or, Option.some.injEq] at h
    exact absurd (hi e (List.mem_of_getLast? he)) (by rw [h]; decide)

section
variable {d : Dependency} {mode : Mode} {s t : Text}

theorem Dependency.IsNamed.isLine_parameter (hd : d.IsNamed) : IsLine d.parameter :=
  ⟨hd.notMem_parameter (by decide), hd.notMem_parameter (by decide)⟩

/-- The line of a parameter is parted from the others with the line break of the open constructor. -/
theorem Dependency.IsNamed.insertsLines_append (hd : d.IsNamed) {u : Text} {o : OpenConstructor}
    (h : firstOpen? s = some (u, o)) :
    HasBreak o.lineBreak s ∧ InsertsLines o.lineBreak s (u ++ o.append d.parameter) := by
  obtain ⟨hs, happend, -⟩ := append_eq hd h
  have hf := (openConstructor?_parts (firstOpen?_eq_some h).2.1).2.1
  obtain ⟨i, hi, hindent⟩ := hf.comma
  constructor
  · refine ⟨hf.lineBreak, u ++ o.head ++ ',' :: i, o.after, ?_, getLast?_ne_of_isIndent (by decide) hindent⟩
    rw [hs, OpenConstructor.before, hi]
    simp only [List.append_assoc, List.cons_append]
  · refine ⟨u ++ o.before, [o.indent ++ d.parameter, o.closingIndent], o.after, hs, ?_, ?_, ?_⟩
    · rw [happend, line]
      simp only [joinWith, List.append_assoc]
    · have hline := (isLine_of_isIndent o.isIndent_indent).append hd.isLine_parameter
      simpa using ⟨hline, isLine_of_isIndent o.isIndent_closingIndent⟩
    · rw [hf.getLast?_before u]
      decide

/-- The lines of a new constructor are parted with the line break of the class header. -/
theorem Dependency.IsNamed.insertsLines_addConstructor (hd : d.IsNamed) {u : Text} {h : ClassHeader}
    (hh : firstHeader? s = some (u, h)) : HasBreak h.lineBreak s ∧
      InsertsLines h.lineBreak s (u ++ h.header ++ (d.newConstructor h.lineBreak ++ h.rest)) := by
  obtain ⟨hlast, hb, hs⟩ := getLast?_header hh
  obtain ⟨-, -, ⟨c, i, hheader, hi⟩, -⟩ := classHeader?_parts (firstHeader?_eq_some hh).2
  constructor
  · refine ⟨hb, u ++ c ++ '{' :: i, h.rest, ?_, getLast?_ne_of_isIndent (by decide) hi⟩
    rw [hs, hheader]
    simp only [List.append_assoc, List.cons_append]
  · refine ⟨u ++ h.header, _, h.rest, hs, rfl, ?_, ?_⟩
    · have hindent : IsLine "        ".toList := by decide
      have hline := hindent.append hd.isLine_parameter
      simp only [List.forall_mem_cons]
      exact ⟨by decide, hline, by decide, by decide, by decide, by decide, nofun⟩
    · rw [hlast]
      decide

theorem Dependency.IsNamed.insertsLines_rewrite (hd : d.IsNamed) (h : d.rewrite mode s = some t) :
    ∃ lineBreak, HasBreak lineBreak s ∧ InsertsLines lineBreak s t := by
  rcases rewrite_cases h with ⟨-, u, o, ho, rfl⟩ | ⟨-, u, o, ho, rfl⟩
  · exact ⟨o.lineBreak, hd.insertsLines_append ho⟩
  · exact ⟨o.lineBreak, hd.insertsLines_addConstructor ho⟩

/-! ## Imports -/

theorem isLine_useStatement {name : Text} (h : IsLine name) : IsLine (useStatement name) := by
  have hrest : IsLine (name.dropWhile (· == '\\')) :=
    ⟨fun hc => h.1 ((List.dropWhile_suffix _).subset hc),
      fun hc => h.2 ((List.dropWhile_suffix _).subset hc)⟩
  have huse : IsLine "use ".toList := by decide
  have hend : IsLine [';'] := by decide
  exact (huse.append hrest).append hend

theorem ImportLine.exists_lines {text lineBreak a w b : Text} (h : ImportLine text lineBreak a w b)
    (ht : IsLine text) : ∃ lines, w = joinWith lineBreak lines ∧ ∀ l ∈ lines, IsLine l := by
  have hempty : IsLine [] := ⟨nofun, nofun⟩
  cases h with
  | before _ _ => exact ⟨[text, []], by simp [joinWith], by simp [ht, hempty]⟩
  | after _ hbreaks =>
    rcases hbreaks with rfl | rfl
    · exact ⟨[[], text], by simp [joinWith], by simp [ht, hempty]⟩
    · exact ⟨[[], [], text], by simp [joinWith], by simp [ht, hempty]⟩

theorem Dependency.insertsLines_addUse (himport : ∀ name, d.imported = some name → IsLine name)
    (h : d.addUse s = some t) : InsertsLines (sourceLineBreak s) s t := by
  obtain ⟨name, a, w, b, hname, -, hs, ht, hline⟩ := addUse_eq_some h
  obtain ⟨lines, rfl, hlines⟩ := hline.exists_lines (isLine_useStatement (himport name hname))
  refine ⟨a, lines, b, hs, ht, hlines, fun he => ?_⟩
  rcases hline.getLast?_before _ he with h | h <;> exact absurd h (by decide)

theorem HasReturns.sourceLineBreak_eq (h : HasReturns returned s) (hs : '\n' ∈ s) :
    sourceLineBreak s = lineBreakOf returned := by
  unfold sourceLineBreak
  cases returned with
  | false => rw [if_neg (by rw [occurs_iff]; exact hasReturns_false_iff.1 h)]; rfl
  | true =>
    obtain ⟨a, b, rfl⟩ := List.append_of_mem hs
    obtain ⟨a, rfl⟩ := List.getLast?_eq_some_iff.1 (hasReturns_true_iff.1 h a b rfl)
    rw [if_pos (occurs_iff.2 ⟨a, b, by simp⟩)]
    rfl

/-! ## Injections -/

theorem Dependency.IsNamed.hasReturns_of_injected (hd : d.IsNamed)
    (himport : ∀ name, d.imported = some name → IsLine name) (h : d.inject mode s = .injected t)
    (hs : HasReturns returned s) : HasReturns returned t := by
  obtain ⟨-, r, hr, rfl⟩ := inject_eq_injected_iff.1 h
  obtain ⟨lineBreak, hbreak, hlines⟩ := hd.insertsLines_rewrite hr
  rw [hs.eq_of_hasBreak hbreak] at hlines
  have hreturns := hlines.hasReturns hs
  cases huse : d.addUse r with
  | none => exact hreturns
  | some t =>
    have himported := insertsLines_addUse himport huse
    rw [hreturns.sourceLineBreak_eq (hlines.mem hbreak.mem)] at himported
    exact himported.hasReturns hreturns

/-- An injection keeps line breaks with a carriage return in all lines, and such without in all lines. -/
theorem Dependency.IsNamed.lineBreaks_of_injected (hd : d.IsNamed)
    (himport : ∀ name, d.imported = some name → '\r' ∉ name ∧ '\n' ∉ name)
    (h : d.inject mode s = .injected t) :
    ((∀ a b, s = a ++ '\n' :: b → a.getLast? = some '\r') →
      ∀ a b, t = a ++ '\n' :: b → a.getLast? = some '\r') ∧
    (¬ ['\r', '\n'] <:+: s → ¬ ['\r', '\n'] <:+: t) := by
  rw [← hasReturns_true_iff, ← hasReturns_true_iff, ← hasReturns_false_iff, ← hasReturns_false_iff]
  exact ⟨hd.hasReturns_of_injected himport h, hd.hasReturns_of_injected himport h⟩

end

def returnedController : Text := joinWith ['\r', '\n'] [
  "namespace App;".toList,
  [],
  "class BadgeController extends AbstractController".toList,
  "\x7b".toList,
  "\x7d".toList,
  []]

theorem Dependency.lineBreaks_of_injected_returnedController :
    (∃ t, importedDependency.inject .create returnedController = .injected t ∧
      ∀ a b, t = a ++ '\n' :: b → a.getLast? = some '\r') ∧
    ∃ t, importedDependency.inject .extend importingController = .injected t ∧
      ¬ ['\r', '\n'] <:+: t := by
  have hcreated : (importedDependency.inject .create returnedController).updated?.isSome = true := by
    decide +kernel
  have hreturned : HasReturns true returnedController := (hasReturns_joinWith true (by decide)).1
  obtain ⟨t, h⟩ := Outcome.isSome_updated?_iff.1 hcreated
  obtain ⟨t', h'⟩ := injects_importingController
  have himport : ∀ name, importedDependency.imported = some name → '\r' ∉ name ∧ '\n' ∉ name := by
    rintro name ⟨⟩
    decide
  exact ⟨⟨t, h, (Dependency.IsNamed.lineBreaks_of_injected (by decide) himport h).1
      (hasReturns_true_iff.1 hreturned)⟩,
    t', h', (Dependency.IsNamed.lineBreaks_of_injected (by decide) himport h').2 (by decide +kernel)⟩

end Wiring
