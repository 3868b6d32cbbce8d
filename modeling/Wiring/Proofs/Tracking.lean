import Wiring.Proofs.Injection

/-!
# Where the parameters stand after a rewrite

A parameter that is added moves the ends of the parameter list behind it and no others, and a constructor
that is added brings the parameter list along or there is none. Main statements:
`Dependency.IsNamed.tracks_appendParameter` and `Dependency.IsNamed.tracks_addConstructor`.
-/

namespace Wiring

/-! ## Offsets around an insertion -/

def shiftOffset (q n offset : Nat) : Nat := if q ≤ offset then offset + n else offset

def Span.shift (q n : Nat) (span : Span) : Span :=
  ⟨shiftOffset q n span.start, shiftOffset q n span.stop⟩

theorem shiftOffset_of_le {q offset : Nat} (h : q ≤ offset) (n : Nat) :
    shiftOffset q n offset = offset + n := if_pos h

theorem shiftOffset_of_lt {q offset : Nat} (h : offset < q) (n : Nat) :
    shiftOffset q n offset = offset := if_neg (Nat.not_le.2 h)

theorem byteLength_insertAt {s t x r : Text} (h : s ++ t = x ++ r) (w : Text) :
    byteLength (insertAt s.length w x) = shiftOffset (byteLength s) (byteLength w) (byteLength x) := by
  have hs : s <+: x ++ r := ⟨t, h⟩
  have hx : x <+: x ++ r := List.prefix_append x r
  by_cases hle : s.length ≤ x.length
  · obtain ⟨y, rfl⟩ := List.prefix_of_prefix_length_le hs hx hle
    rw [insertAt_length, shiftOffset_of_le (by simp)]
    simp only [byteLength_append]
    omega
  · rw [insertAt, if_neg hle, shiftOffset_of_lt]
    exact Nat.lt_of_not_le (mt (byteLength_le_iff hs hx).1 hle)

/-- The ends of a parameter list move as offsets do, unless the insertion comes right at its start. -/
theorem ParameterList.span_insert {p : ParameterList} {s t r : Text}
    (h : s ++ t = p.before ++ (p.inside ++ r)) (hne : s ≠ p.before) (w : Text) :
    (p.insert s.length w).span = p.span.shift (byteLength s) (byteLength w) := by
  obtain ⟨x, i⟩ := p
  have hs : s <+: x ++ (i ++ r) := ⟨t, h⟩
  have hx : x <+: x ++ (i ++ r) := List.prefix_append x _
  show _ = Span.shift _ _ ⟨byteLength x, byteLength x + byteLength i⟩
  rw [insert, Span.shift]
  by_cases hlt : s.length < x.length
  · have hle : byteLength s ≤ byteLength x := (byteLength_le_iff hs hx).2 (Nat.le_of_lt hlt)
    have hstop : byteLength s ≤ byteLength x + byteLength i := Nat.le_add_right_of_le hle
    rw [if_pos hlt, span, byteLength_insertAt h, shiftOffset_of_le hle, shiftOffset_of_le hstop,
      Nat.add_right_comm]
  · rw [if_neg hlt]
    obtain ⟨y, rfl⟩ := List.prefix_of_prefix_length_le hx hs (Nat.le_of_not_lt hlt)
    have hy : 0 < byteLength y := byteLength_pos fun hy => hne (by rw [hy, List.append_nil])
    rw [List.append_assoc, List.append_cancel_left_eq] at h
    rw [List.length_append, Nat.add_sub_cancel_left, span, byteLength_insertAt h, byteLength_append,
      shiftOffset_of_lt (Nat.lt_add_of_pos_right hy), shiftOffset, shiftOffset]
    simp only [Nat.add_le_add_iff_left, Nat.add_assoc]
    split <;> rfl

theorem QuietInsertion.parameterSpan?_eq {a w b : Text} (h : QuietInsertion a w b) :
    parameterSpan? (a ++ (w ++ b)) =
      (parameterSpan? (a ++ b)).map (·.shift (byteLength a) (byteLength w)) := by
  rw [parameterSpan?, parameterSpan?, h.parameterList?_eq]
  cases hp : parameterList? (mask (a ++ b)) with
  | none => rfl
  | some p =>
    obtain ⟨t, ht⟩ := parameterList?_eq_append hp
    -- the list starts behind its parenthesis, and no insertion comes right behind one
    have hne : maskPart b.head? .code a ≠ p.before := fun heq => by
      have hedge := h.isEdge_of_mem_getLast? (heq ▸ getLast?_before_of_parameterList? hp)
      cases hedge
    rw [mask_append, List.append_assoc] at ht
    simp only [Option.map_some, ParameterList.span_insert ht hne, byteLength_maskPart,
      byteLength_shown]

/-! ## Adding a parameter -/

/-- A parameter that is added moves the ends of the parameter list at and behind it, and makes the
dependency recognised in the code of that list only. -/
theorem Dependency.IsNamed.tracks_appendParameter {d : Dependency} (hd : d.IsNamed) {s t : Text}
    (h : d.appendParameter s = some t) :
    ∃ u o, firstOpen? s = some (u, o) ∧ s = u ++ o.before ++ o.after ∧
      t = u ++ o.before ++ (d.line o ++ o.after) ∧
      parameterSpan? t = (parameterSpan? s).map
        (·.shift (byteLength (u ++ o.before)) (byteLength t - byteLength s)) ∧
      (d.isTaken t = true ↔ d.isTaken s = true ∨ InParameters (u ++ o.before) o.after) := by
  rw [appendParameter_eq] at h
  obtain ⟨⟨u, o⟩, ho, rfl⟩ := Option.map_eq_some_iff.1 h
  obtain ⟨hs, ht, hquiet⟩ := append_eq hd ho
  have hbytes : byteLength (u ++ o.append d.parameter) - byteLength s = byteLength (d.line o) := by
    rw [ht, hs]
    simp only [byteLength_append]
    omega
  refine ⟨u, o, ho, hs, ht, ?_, isTaken_append_iff_or hd ho⟩
  rw [hbytes, ht, hs]
  exact hquiet.parameterSpan?_eq

theorem Dependency.tracks_appendParameter_commentedController :
    ∃ t, ({} : Dependency).appendParameter commentedController = some t ∧
      ∃ u o, firstOpen? commentedController = some (u, o) ∧
        commentedController = u ++ o.before ++ o.after ∧
        t = u ++ o.before ++ (({} : Dependency).line o ++ o.after) ∧
        parameterSpan? t = (parameterSpan? commentedController).map
          (·.shift (byteLength (u ++ o.before)) (byteLength t - byteLength commentedController)) ∧
        (({} : Dependency).isTaken t = true ↔ ({} : Dependency).isTaken commentedController = true ∨
          InParameters (u ++ o.before) o.after) ∧
        parameterSpan? commentedController = some ⟨195, 289⟩ ∧
        parameterSpan? t = some ⟨195 + 56, 289 + 56⟩ ∧
        ({} : Dependency).isTaken t = false ∧ ¬ InParameters (u ++ o.before) o.after := by
  have happended : (({} : Dependency).appendParameter commentedController).any (fun t =>
      parameterSpan? t = some ⟨195 + 56, 289 + 56⟩ ∧ ({} : Dependency).isTaken t = false) = true := by
    decide +kernel
  obtain ⟨t, ht, hchecks⟩ := (Option.any_eq_true _ _).1 happended
  obtain ⟨hspan, htaken⟩ := of_decide_eq_true hchecks
  obtain ⟨u, o, ho, hs, hput, hshift, hiff⟩ := Dependency.IsNamed.tracks_appendParameter (by decide) ht
  refine ⟨t, ht, u, o, ho, hs, hput, hshift, hiff, by decide +kernel, hspan, htaken, fun hin => ?_⟩
  rw [hiff.2 (.inr hin)] at htaken
  cases htaken

/-! ## Adding a constructor -/

theorem slice?_maskPart (a b : Text) :
    slice? (mask (a ++ b)) ⟨0, byteLength a⟩ = some (maskPart b.head? .code a) := by
  have h := slice?_append [] (maskPart b.head? .code a) (maskFrom (regionAt a b) b)
  rwa [List.nil_append, byteLength_nil, Nat.zero_add, byteLength_maskPart, ← mask_append] at h

theorem slice?_mask {a : Text} (ha : ∀ e ∈ a.getLast?, looksAhead e = false) (b : Text) :
    slice? (mask (a ++ b)) ⟨0, byteLength a⟩ = some (mask a) := by
  rw [slice?_maskPart, maskPart_eq_mask ha]

/-- A constructor that is added is recognised exactly where the class header ends one brace deep in code.
Its parameters are those of the class there, and elsewhere the class has none. -/
theorem Dependency.IsNamed.tracks_addConstructor {d : Dependency} (hd : d.IsNamed) {s t : Text}
    (hc : declaresConstructor s = false) (h : d.addConstructor s = some t) :
    ∃ u c code, firstHeader? s = some (u, c) ∧ s = u ++ c.header ++ c.rest ∧
      t = u ++ c.header ++ (d.newConstructor c.lineBreak ++ c.rest) ∧
      d.newConstructor c.lineBreak =
        newOpening ++ (d.newList c.lineBreak ++ ')' :: newClosing c.lineBreak) ∧
      slice? (mask s) ⟨0, byteLength (u ++ c.header)⟩ = some code ∧
      (d.isTaken t = true ↔ regionAt (u ++ c.header) c.rest = .code ∧ openBraces code = 1) ∧
      parameterSpan? t = if d.isTaken t = true then
        some (ParameterList.span ⟨u ++ c.header ++ newOpening, d.newList c.lineBreak⟩) else none := by
  rw [addConstructor_eq] at h
  obtain ⟨⟨u, c⟩, hfirst, rfl⟩ := Option.map_eq_some_iff.1 h
  obtain ⟨hlast, -, hs⟩ := getLast?_header hfirst
  have htaken := hd.isTaken_addConstructor_iff hfirst hc
  refine ⟨u, c, mask (u ++ c.header), hfirst, hs, rfl, d.newConstructor_eq _,
    hs ▸ slice?_mask (looksAhead_of_lineEnd hlast) c.rest, htaken, ?_⟩
  simp only [parameterSpan?, hd.parameterList?_addConstructor hfirst hc, htaken]
  split
  · simp only [Option.map_some, ParameterList.span, byteLength_append, byteLength_mask]
  · rfl

def bareController : Text := joinWith ['\n'] [
  "class BadgeController extends AbstractController".toList,
  "\x7b".toList,
  "    public function list(): void".toList,
  "    \x7b".toList,
  "    \x7d".toList,
  "\x7d".toList,
  []]

theorem Dependency.tracks_addConstructor_bareController :
    ∃ t, ({} : Dependency).addConstructor bareController = some t ∧
      ∃ u c code, firstHeader? bareController = some (u, c) ∧
        bareController = u ++ c.header ++ c.rest ∧
        t = u ++ c.header ++ (({} : Dependency).newConstructor c.lineBreak ++ c.rest) ∧
        ({} : Dependency).newConstructor c.lineBreak = newOpening ++
          (({} : Dependency).newList c.lineBreak ++ ')' :: newClosing c.lineBreak) ∧
        slice? (mask bareController) ⟨0, byteLength (u ++ c.header)⟩ = some code ∧
        (({} : Dependency).isTaken t = true ↔
          regionAt (u ++ c.header) c.rest = .code ∧ openBraces code = 1) ∧
        (parameterSpan? t = if ({} : Dependency).isTaken t = true then
          some (ParameterList.span
            ⟨u ++ c.header ++ newOpening, ({} : Dependency).newList c.lineBreak⟩) else none) ∧
        ({} : Dependency).isTaken t = true ∧ parameterSpan? t = some ⟨83, 144⟩ ∧
        regionAt (u ++ c.header) c.rest = .code ∧ openBraces code = 1 := by
  have hadded : (({} : Dependency).addConstructor bareController).any (fun t =>
      ({} : Dependency).isTaken t = true ∧ parameterSpan? t = some ⟨83, 144⟩) = true := by
    decide +kernel
  obtain ⟨t, ht, hchecks⟩ := (Option.any_eq_true _ _).1 hadded
  obtain ⟨htaken, hspan⟩ := of_decide_eq_true hchecks
  obtain ⟨u, c, code, hc, hs, hput, hnew, hcode, hiff, hlist⟩ :=
    Dependency.IsNamed.tracks_addConstructor (by decide) (by decide +kernel) ht
  exact ⟨t, ht, u, c, code, hc, hs, hput, hnew, hcode, hiff, hlist, htaken, hspan, hiff.1 htaken⟩

end Wiring
