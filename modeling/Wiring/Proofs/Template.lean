import Wiring.Manifest.Targets
import Wiring.Manifest.Validity

/-!
# Expanded templates

A path is spelled out segment by segment, without those that do not count. A template says in this
spelling which controller it was expanded for: `expandTemplate_injective`.
-/

namespace Wiring

/-! ## Segments -/

inductive SegmentState where
  | start
  | dot
  | dots
  | inside
deriving DecidableEq

namespace SegmentState

def of : Text → SegmentState
  | [] => .start
  | ['.'] => .dot
  | ['.', '.'] => .dots
  | _ => .inside

def step : SegmentState → Char → SegmentState
  | .start, c => if c = '.' then .dot else .inside
  | .dot, c => if c = '.' then .dots else .inside
  | _, _ => .inside

def pending : SegmentState → Text
  | .dot => ['.']
  | .dots => ['.', '.']
  | _ => []

def close : SegmentState → List (Option Char)
  | .dots => [none]
  | .inside => [some '/']
  | _ => []

theorem of_append_singleton (x : Text) (c : Char) : of (x ++ [c]) = (of x).step c := by
  rcases x with _ | ⟨a, _ | ⟨b, _ | ⟨e, x⟩⟩⟩
  · by_cases hc : c = '.' <;> simp [of, step, hc]
  · by_cases ha : a = '.' <;> by_cases hc : c = '.' <;> simp [of, step, ha, hc]
  · by_cases ha : a = '.' <;> by_cases hb : b = '.' <;> simp [of, step, ha, hb]
  · simp [of, step]

theorem pending_of {x : Text} (hx : of x ≠ .inside) : (of x).pending = x := by
  rcases x with _ | ⟨a, _ | ⟨b, _ | ⟨e, x⟩⟩⟩
  · rfl
  · by_cases ha : a = '.' <;> simp_all [of, pending]
  · by_cases ha : a = '.' <;> by_cases hb : b = '.' <;> simp_all [of, pending]
  · simp [of] at hx

theorem step_ne_inside {state : SegmentState} {c : Char} (h : state.step c ≠ .inside) :
    state ≠ .inside := by
  rintro rfl
  exact h rfl

theorem step_of_ne_dot (state : SegmentState) {c : Char} (hc : c ≠ '.') :
    state.step c = .inside := by
  cases state <;> simp [step, hc]

end SegmentState

/-- The segments of a path that count: a mark for two dots, other names with a slash. -/
def spell (state : SegmentState) : Text → List (Option Char)
  | [] => state.close
  | c :: s =>
    if c = '/' then state.close ++ spell .start s
    else if state.step c = .inside then (state.pending ++ [c]).map some ++ spell .inside s
    else spell (state.step c) s

/-- What a character adds depends on what was read before, not on what follows. -/
theorem spell_cons_eq (state : SegmentState) (c : Char) :
    ∃ x next, ∀ s, spell state (c :: s) = x ++ spell next s := by
  by_cases hc : c = '/'
  · exact ⟨state.close, .start, fun s => by rw [spell, if_pos hc]⟩
  · by_cases hstep : state.step c = .inside
    · exact ⟨(state.pending ++ [c]).map some, .inside, fun s => by
        rw [spell, if_neg hc, if_pos hstep]⟩
    · exact ⟨[], state.step c, fun s => by rw [spell, if_neg hc, if_neg hstep]; rfl⟩

def spellSegment (segment : Text) : List (Option Char) :=
  match Component.ofSegment? segment with
  | some .up => [none]
  | some (.name segment) => segment.map some ++ [some '/']
  | _ => []

def spelled (segment : Text) : List (Option Char) :=
  if SegmentState.of segment = .inside then segment.map some else []

theorem spelled_append_close (x : Text) :
    spelled x ++ (SegmentState.of x).close = spellSegment x := by
  rcases x with _ | ⟨a, _ | ⟨b, _ | ⟨c, x⟩⟩⟩
  · rfl
  · by_cases ha : a = '.' <;>
      simp [spelled, spellSegment, Component.ofSegment?, SegmentState.of, SegmentState.close, ha]
  · by_cases ha : a = '.' <;> by_cases hb : b = '.' <;>
      simp [spelled, spellSegment, Component.ofSegment?, SegmentState.of, SegmentState.close, ha, hb]
  · simp [spelled, spellSegment, Component.ofSegment?, SegmentState.of, SegmentState.close]

theorem pieces_of_notMem {z : Char} {s : Text} (h : z ∉ s) : pieces z s = [s] := by
  induction s with
  | nil => rfl
  | cons c s ih =>
    obtain ⟨hc, hs⟩ := List.ne_and_not_mem_of_not_mem_cons h
    simp [pieces, Ne.symm hc, ih hs]

theorem pieces_ne_nil (z : Char) (s : Text) : pieces z s ≠ [] := by
  cases s with
  | nil => simp [pieces]
  | cons c s =>
    rw [pieces]
    split
    · simp
    · split <;> simp

theorem pieces_append (z : Char) (r s : Text) :
    pieces z (r ++ z :: s) = pieces z r ++ pieces z s := by
  induction r with
  | nil => simp [pieces]
  | cons c r ih =>
    by_cases hc : c = z
    · simp [pieces, hc, ih]
    · obtain ⟨p, ps, hp⟩ := List.exists_cons_of_ne_nil (pieces_ne_nil z r)
      simp [pieces, hc, ih, hp]

theorem pieces_append_separator {z : Char} {x : Text} (hx : z ∉ x) (s : Text) :
    pieces z (x ++ z :: s) = x :: pieces z s := by
  rw [pieces_append, pieces_of_notMem hx, List.singleton_append]

/-- Spelling character by character is spelling segment by segment. -/
theorem flatMap_spellSegment_append {x : Text} (hx : '/' ∉ x) (s : Text) :
    (pieces '/' (x ++ s)).flatMap spellSegment = spelled x ++ spell (.of x) s := by
  -- `x` is what was read of the segment that the rest begins in
  induction s generalizing x with
  | nil => simp [pieces_of_notMem hx, spell, spelled_append_close]
  | cons c s ih =>
    by_cases hc : c = '/'
    · subst hc
      have hs := ih (x := []) (by simp)
      rw [pieces_append_separator hx, List.flatMap_cons, spell, if_pos rfl, ← List.append_assoc,
        spelled_append_close]
      exact congrArg _ hs
    · have h := ih (x := x ++ [c]) (by simp [hx, Ne.symm hc])
      rw [List.append_assoc, List.singleton_append, SegmentState.of_append_singleton] at h
      rw [h, spell, if_neg hc, spelled, SegmentState.of_append_singleton]
      by_cases hstep : (SegmentState.of x).step c = .inside
      · rw [if_pos hstep, if_pos hstep, hstep, ← List.append_assoc]
        congr 1
        by_cases hin : SegmentState.of x = .inside
        · simp [spelled, hin, SegmentState.pending]
        · simp [spelled, hin, SegmentState.pending_of hin]
      · have hin := SegmentState.step_ne_inside hstep
        simp [spelled, hstep, hin]

theorem flatMap_spellSegment (s : Text) :
    (pieces '/' s).flatMap spellSegment = spell .start s :=
  flatMap_spellSegment_append (x := []) (by simp) s

theorem none_mem_spellSegment {x : Text} : none ∈ spellSegment x ↔ x = ['.', '.'] := by
  unfold spellSegment Component.ofSegment?
  by_cases h : x = [] ∨ x = ['.']
  · rcases h with rfl | rfl <;> simp
  · by_cases hx : x = ['.', '.'] <;> simp [h, hx]

theorem none_mem_spell {s : Text} : none ∈ spell .start s ↔ ['.', '.'] ∈ pieces '/' s := by
  rw [← flatMap_spellSegment, List.mem_flatMap]
  constructor
  · intro h
    obtain ⟨x, hx, h⟩ := h
    exact none_mem_spellSegment.1 h ▸ hx
  · exact fun h => ⟨_, h, none_mem_spellSegment.2 rfl⟩

theorem spell_append_separator (state : SegmentState) (r s : Text) :
    spell state (r ++ '/' :: s) = spell state r ++ spell .start s := by
  induction r generalizing state with
  | nil => simp [spell]
  | cons c r ih =>
    obtain ⟨x, next, h⟩ := spell_cons_eq state c
    rw [List.cons_append, h, h, ih, List.append_assoc]

theorem spell_joinPath (root path : Text) :
    spell .start (joinPath root path) =
      (if isAbsolute path then [] else spell .start root) ++ spell .start path := by
  unfold joinPath
  by_cases habs : isAbsolute path
  · simp [habs]
  · simp only [habs, Bool.false_eq_true, if_false]
    rcases List.eq_nil_or_concat root with rfl | ⟨r, z, rfl⟩
    · simp [spell, SegmentState.close]
    · by_cases hz : z = '/'
      · subst hz
        have h := spell_append_separator .start r []
        simp [spell_append_separator, h, spell, SegmentState.close]
      · simp [hz, ← spell_append_separator]

theorem isAbsolute_joinPath (root path : Text) :
    isAbsolute (joinPath root path) = (isAbsolute path || isAbsolute root) := by
  unfold joinPath
  by_cases habs : isAbsolute path
  · simp [habs]
  · rcases root with _ | ⟨c, root⟩
    · simp [isAbsolute]
    · simp only [habs, Bool.false_eq_true, if_false, Bool.false_or]
      split <;> simp [isAbsolute]

/-! ## Names -/

theorem mem_pieces_of_mem {z c : Char} {s : Text} (h : c ∈ s) (hc : c ≠ z) :
    ∃ p ∈ pieces z s, c ∈ p := by
  induction s with
  | nil => simp at h
  | cons d s ih =>
    by_cases hd : d = z
    · subst hd
      obtain ⟨p, hp, hcp⟩ := ih (by simpa [hc] using h)
      exact ⟨p, by simp [pieces, hp], hcp⟩
    · simp only [pieces, if_neg hd]
      rcases List.mem_cons.1 h with rfl | h
      · cases pieces z s with
        | nil => exact ⟨[c], by simp⟩
        | cons q ps => exact ⟨c :: q, by simp⟩
      · obtain ⟨p, hp, hcp⟩ := ih h
        cases hs : pieces z s with
        | nil => simp [hs] at hp
        | cons q ps =>
          rcases List.mem_cons.1 (hs ▸ hp) with rfl | hp
          · exact ⟨d :: p, by simp, by simp [hcp]⟩
          · exact ⟨p, by simp [hp], hcp⟩

/-- All segments count, and none has a dot. -/
structure IsDotless (n : Text) : Prop where
  ne_nil : ∀ p ∈ pieces '/' n, p ≠ []
  dot : '.' ∉ n

theorem IsDotless.of_isControllerPath {n : Text} (hn : isControllerPath n) : IsDotless n := by
  have hall : ∀ p ∈ pieces '/' n, p ≠ [] ∧ ∀ c ∈ p, isNameCharacter c := by
    simpa [isControllerPath] using hn
  refine ⟨fun p hp => (hall p hp).1, fun h => ?_⟩
  obtain ⟨p, hp, hc⟩ := mem_pieces_of_mem (z := '/') h (by decide)
  exact absurd ((hall p hp).2 _ hc) (by decide)

theorem cons_of_pieces_ne_nil {s : Text} (h : ∀ p ∈ pieces '/' s, p ≠ []) :
    ∃ c t, s = c :: t ∧ c ≠ '/' := by
  cases s with
  | nil => exact absurd rfl (h [] (by simp [pieces]))
  | cons c t =>
    refine ⟨c, t, rfl, ?_⟩
    rintro rfl
    exact absurd rfl (h [] (by simp [pieces]))

theorem tail_pieces_cons {z c : Char} (hc : c ≠ z) (s : Text) :
    (pieces z (c :: s)).tail = (pieces z s).tail := by
  simp only [pieces, if_neg hc]
  cases pieces z s <;> rfl

theorem spell_cons (state : SegmentState) {c : Char} (hc : c ≠ '/') (hd : c ≠ '.') (s : Text) :
    spell state (c :: s) = (state.pending ++ [c]).map some ++ spell .inside s := by
  rw [spell, if_neg hc, if_pos (state.step_of_ne_dot hd)]

theorem spell_inside_append {n : Text} (hn : ∀ p ∈ (pieces '/' n).tail, p ≠ [])
    (hdot : '.' ∉ n) (s : Text) : spell .inside (n ++ s) = n.map some ++ spell .inside s := by
  induction n with
  | nil => rfl
  | cons c n ih =>
    obtain ⟨hc, hn'⟩ := List.ne_and_not_mem_of_not_mem_cons hdot
    by_cases hz : c = '/'
    · -- a segment follows, and its first character takes the state inside again
      subst hz
      simp only [pieces, if_true, List.tail_cons] at hn
      obtain ⟨d, t, rfl, hd⟩ := cons_of_pieces_ne_nil hn
      have hd' : d ≠ '.' := Ne.symm (List.ne_of_not_mem_cons hn')
      have h := ih (fun p hp => hn p (List.mem_of_mem_tail hp)) hn'
      rw [List.cons_append, spell_cons _ hd hd'] at h
      rw [List.cons_append, spell, if_pos rfl, List.cons_append, spell_cons _ hd hd']
      exact congrArg (some '/' :: ·) h
    · rw [tail_pieces_cons hz] at hn
      rw [List.cons_append, spell_cons _ hz (Ne.symm hc), ih hn hn']
      rfl

/-- Segments without dots are spelled as they are, wherever they stand. -/
theorem IsDotless.spell_append {n : Text} (hn : IsDotless n) (state : SegmentState) (s : Text) :
    spell state (n ++ s) = (state.pending ++ n).map some ++ spell .inside s := by
  have h := spell_inside_append (fun p hp => hn.ne_nil p (List.mem_of_mem_tail hp)) hn.dot s
  obtain ⟨c, t, rfl, hc⟩ := cons_of_pieces_ne_nil hn.ne_nil
  have hd := Ne.symm (List.ne_of_not_mem_cons hn.dot)
  rw [List.cons_append, spell_cons _ hc hd] at h ⊢
  simpa [SegmentState.pending] using h

/-! ## Templates -/

def placeholder : Text := ['{', 'n', 'a', 'm', 'e', '}']

theorem IsDotless.placeholder : IsDotless placeholder := ⟨by decide, by decide⟩

theorem isAbsolute_expandTemplate {n : Text} (hn : IsDotless n) (template : Text) :
    isAbsolute (expandTemplate n template) = isAbsolute template := by
  obtain ⟨c, t, rfl, hc⟩ := cons_of_pieces_ne_nil hn.ne_nil
  induction template using expandTemplate.induct with
  | case1 s ih => simp [expandTemplate, isAbsolute, hc]
  | case2 c s hs ih => simp [expandTemplate, isAbsolute]
  | case3 => rfl

theorem none_mem_spell_expandTemplate {n : Text} (hn : IsDotless n) (state : SegmentState)
    (template : Text) :
    none ∈ spell state (expandTemplate n template) ↔ none ∈ spell state template := by
  induction template using expandTemplate.induct generalizing state with
  | case1 s ih =>
    have h := IsDotless.placeholder.spell_append state s
    rw [expandTemplate, hn.spell_append]
    refine Iff.trans ?_ (iff_of_eq (congrArg (none ∈ ·) h).symm)
    simp [ih]
  | case2 c s hs ih =>
    obtain ⟨x, next, h⟩ := spell_cons_eq state c
    rw [expandTemplate, h, h, List.mem_append, List.mem_append, ih]
    exact hs
  | case3 => rfl

section
variable {n n' : Text} (hn : IsDotless n) (hn' : IsDotless n')
include hn hn'

theorem length_spell_expandTemplate_le (hle : n.length ≤ n'.length) (state : SegmentState)
    (template : Text) : (spell state (expandTemplate n template)).length ≤
      (spell state (expandTemplate n' template)).length := by
  induction template using expandTemplate.induct generalizing state with
  | case1 s ih =>
    have h := ih .inside
    simp only [expandTemplate, hn.spell_append, hn'.spell_append, List.length_append,
      List.length_map]
    omega
  | case2 c s hs ih =>
    obtain ⟨x, next, h⟩ := spell_cons_eq state c
    have hlength := ih next
    rw [expandTemplate, expandTemplate, h, h, List.length_append, List.length_append]
    · omega
    · exact hs
    · exact hs
  | case3 => exact Nat.le_refl _

theorem length_spell_expandTemplate_lt (hlt : n.length < n'.length) (state : SegmentState)
    {template : Text} (ht : hasPlaceholder template) :
    (spell state (expandTemplate n template)).length <
      (spell state (expandTemplate n' template)).length := by
  induction template using expandTemplate.induct generalizing state with
  | case1 s ih =>
    have h := length_spell_expandTemplate_le hn hn' (Nat.le_of_lt hlt) .inside s
    simp only [expandTemplate, hn.spell_append, hn'.spell_append, List.length_append,
      List.length_map]
    omega
  | case2 c s hs ih =>
    obtain ⟨x, next, h⟩ := spell_cons_eq state c
    have hlength := ih next (by rwa [hasPlaceholder] at ht; exact hs)
    rw [expandTemplate, expandTemplate, h, h, List.length_append, List.length_append]
    · omega
    · exact hs
    · exact hs
  | case3 => simp [hasPlaceholder] at ht

/-- A template is spelled differently for each controller. -/
theorem expandTemplate_injective {state : SegmentState} {template : Text}
    (ht : hasPlaceholder template)
    (h : spell state (expandTemplate n template) = spell state (expandTemplate n' template)) :
    n = n' := by
  have hlength : n.length = n'.length := by
    rcases Nat.lt_trichotomy n.length n'.length with hlt | heq | hlt
    · have := length_spell_expandTemplate_lt hn hn' hlt state ht
      exact absurd (congrArg List.length h) (by omega)
    · exact heq
    · have := length_spell_expandTemplate_lt hn' hn hlt state ht
      exact absurd (congrArg List.length h) (by omega)
  -- up to the first placeholder both expansions are spelled alike
  induction template using expandTemplate.induct generalizing state with
  | case1 s ih =>
    rw [expandTemplate, expandTemplate, hn.spell_append, hn'.spell_append] at h
    have h := (List.append_inj h (by simp [hlength])).1
    exact List.append_cancel_left ((List.map_inj_right fun _ _ => Option.some.inj).1 h)
  | case2 c s hs ih =>
    obtain ⟨x, next, hnext⟩ := spell_cons_eq state c
    have ht' : hasPlaceholder s := by rwa [hasPlaceholder] at ht; exact hs
    rw [expandTemplate, expandTemplate, hnext, hnext] at h
    · exact ih ht' (List.append_cancel_left h)
    · exact hs
    · exact hs
  | case3 => simp [hasPlaceholder] at ht

end

end Wiring
