import Mathlib.Data.Finset.Card
import Wiring.FixPlan

/-!
# Fix plans

A plan lists the controllers of its fixes, each once and in the order they first appear, and has one
instruction for each fix. More fixes at the end leave what is planned before. Main statement:
`Manifest.plan_exact`.
-/

namespace Wiring

/-- The texts of `cs`, each once, in the order in which they first stand there. -/
structure ListsOnce (cs names : List Text) : Prop where
  mem_iff : ∀ c, c ∈ names ↔ c ∈ cs
  nodup : names.Nodup
  ordered : names.Pairwise fun c c' => cs.idxOf c < cs.idxOf c'

structure Fix.IsInstructed (f : Fix) (d : Dependency) (a : Accessors) (i : Instruction) : Prop where
  controller : i.controller = f.controller
  method : i.method = f.method
  line : i.line = f.line
  entity : i.entity = f.entity
  statement : i.instruction = f.statement d a

theorem Fix.isInstructed_instruction (f : Fix) (d : Dependency) (a : Accessors) :
    f.IsInstructed d a (f.instruction d a) where
  controller := rfl
  method := rfl
  line := rfl
  entity := rfl
  statement := rfl

/-! ## New controllers -/

section
variable {seen seen' : List Text} {fixes : List Fix}

theorem newControllers_nil : newControllers seen [] = [] := rfl

theorem newControllers_cons (f : Fix) (fixes : List Fix) : newControllers seen (f :: fixes) =
    if f.controller ∈ seen then newControllers seen fixes
    else f.controller :: newControllers (f.controller :: seen) fixes := rfl

theorem mem_newControllers_iff {c : Text} :
    c ∈ newControllers seen fixes ↔ c ∉ seen ∧ c ∈ fixes.map (·.controller) := by
  induction fixes generalizing seen with
  | nil => simp [newControllers_nil]
  | cons f fixes ih =>
    rw [newControllers_cons, List.map_cons, List.mem_cons]
    by_cases hf : f.controller ∈ seen
    · rw [if_pos hf, ih, and_congr_right_iff]
      intro hc
      rw [or_iff_right]
      exact fun h => hc (h ▸ hf)
    · rw [if_neg hf, List.mem_cons, ih, List.mem_cons, not_or]
      by_cases hc : c = f.controller
      · simp [hc, hf]
      · simp [hc]

theorem newControllers_ordered : (newControllers seen fixes).Pairwise fun c c' =>
    (fixes.map (·.controller)).idxOf c < (fixes.map (·.controller)).idxOf c' := by
  induction fixes generalizing seen with
  | nil => exact .nil
  | cons f fixes ih =>
    have hlater : ∀ c, c ≠ f.controller → ((f :: fixes).map (·.controller)).idxOf c =
        (fixes.map (·.controller)).idxOf c + 1 := by
      intro c hc
      rw [List.map_cons, List.idxOf_cons_ne _ (Ne.symm hc)]
    have hne : ∀ {s c}, f.controller ∈ s → c ∈ newControllers s fixes → c ≠ f.controller := by
      intro s c hs hc heq
      rw [heq] at hc
      exact (mem_newControllers_iff.1 hc).1 hs
    -- once the controller of `f` is seen, the others come one place later
    have hseen : ∀ s, f.controller ∈ s → (newControllers s fixes).Pairwise fun c c' =>
        ((f :: fixes).map (·.controller)).idxOf c < ((f :: fixes).map (·.controller)).idxOf c' := by
      intro s hs
      refine ih.imp_of_mem fun hc hc' hlt => ?_
      rw [hlater _ (hne hs hc), hlater _ (hne hs hc')]
      exact Nat.succ_lt_succ hlt
    rw [newControllers_cons]
    by_cases hf : f.controller ∈ seen
    · rw [if_pos hf]
      exact hseen _ hf
    · rw [if_neg hf]
      refine List.pairwise_cons.2 ⟨fun c hc => ?_, hseen _ List.mem_cons_self⟩
      rw [hlater c (hne List.mem_cons_self hc), List.map_cons, List.idxOf_cons_self]
      exact Nat.succ_pos _

theorem newControllers_congr (h : ∀ c, c ∈ seen ↔ c ∈ seen') :
    newControllers seen fixes = newControllers seen' fixes := by
  induction fixes generalizing seen seen' with
  | nil => rfl
  | cons f fixes ih =>
    have hcons : ∀ c, c ∈ f.controller :: seen ↔ c ∈ f.controller :: seen' := by
      intro c
      rw [List.mem_cons, List.mem_cons, h]
    rw [newControllers_cons, newControllers_cons, ih h, ih hcons]
    simp only [h]

/-- Of what is new after `seen`, that which is new after `more` as well. -/
theorem newControllers_append_seen (more seen : List Text) (fixes : List Fix) :
    newControllers (more ++ seen) fixes = (newControllers seen fixes).filter (· ∉ more) := by
  induction fixes generalizing seen with
  | nil => rfl
  | cons f fixes ih =>
    rw [newControllers_cons, newControllers_cons]
    by_cases hf : f.controller ∈ seen
    · rw [if_pos (List.mem_append_right _ hf), if_pos hf, ih]
    · have hmove : newControllers (f.controller :: (more ++ seen)) fixes =
          (newControllers (f.controller :: seen) fixes).filter (· ∉ more) := by
        rw [← ih]
        exact newControllers_congr fun c => List.perm_middle.symm.mem_iff
      rw [if_neg hf, List.filter_cons, ← hmove]
      by_cases hmore : f.controller ∈ more
      · have hknown : ∀ c, c ∈ more ++ seen ↔ c ∈ f.controller :: (more ++ seen) := by
          intro c
          rw [List.mem_cons, or_iff_right_of_imp]
          exact fun h => h ▸ List.mem_append_left _ hmore
        rw [if_pos (List.mem_append_left _ hmore), if_neg (by simpa using hmore),
          newControllers_congr hknown]
      · rw [if_neg (mt List.mem_append.1 (not_or.2 ⟨hmore, hf⟩)), if_pos (by simpa using hmore)]

theorem newControllers_append (xs ys : List Fix) : newControllers seen (xs ++ ys) =
    newControllers seen xs ++ newControllers (xs.map (·.controller) ++ seen) ys := by
  induction xs generalizing seen with
  | nil => rfl
  | cons f xs ih =>
    rw [List.cons_append, newControllers_cons, newControllers_cons, ih, ih]
    by_cases hf : f.controller ∈ seen
    · have hknown : ∀ c, c ∈ xs.map (·.controller) ++ seen ↔
          c ∈ (f :: xs).map (·.controller) ++ seen := by
        intro c
        rw [List.map_cons, List.cons_append, List.mem_cons, or_iff_right_of_imp]
        exact fun h => h ▸ List.mem_append_right _ hf
      rw [if_pos hf, if_pos hf, newControllers_congr hknown]
    · rw [if_neg hf, if_neg hf, List.cons_append]
      exact congrArg _ (congrArg _ (newControllers_congr fun c => List.perm_middle.mem_iff))

end

/-! ## The controllers of a plan -/

theorem controllersOf_listsOnce (fixes : List Fix) :
    ListsOnce (fixes.map (·.controller)) (controllersOf fixes) := by
  have hordered : (controllersOf fixes).Pairwise fun c c' =>
      (fixes.map (·.controller)).idxOf c < (fixes.map (·.controller)).idxOf c' := newControllers_ordered
  refine ⟨fun c => ?_, hordered.imp fun hlt heq => ?_, hordered⟩
  · rw [controllersOf, mem_newControllers_iff, and_iff_right List.not_mem_nil]
  · rw [heq] at hlt
    exact Nat.lt_irrefl _ hlt

theorem controllersOf_append (xs ys : List Fix) : controllersOf (xs ++ ys) =
    controllersOf xs ++ (controllersOf ys).filter (· ∉ controllersOf xs) := by
  have hsame : ∀ c, c ∈ controllersOf xs ↔ c ∈ xs.map (·.controller) :=
    (controllersOf_listsOnce xs).mem_iff
  rw [controllersOf, newControllers_append, newControllers_append_seen]
  simp only [controllersOf] at hsame ⊢
  simp only [hsame]

/-- Nothing is lost and nothing repeated: a plan lists the controllers of its fixes, each once and in
the order they first appear, and has an instruction for each fix, in their order: at its place, with its
statement, and in a controller that is listed. More fixes at the end add the controllers that are new and
leave the plan as it was before them. -/
theorem Manifest.plan_exact (m : Manifest) :
    ListsOnce (m.fixes.map (·.controller)) (m.plan.controllers.map (·.controller)) ∧
    m.plan.total = (m.fixes.map (·.controller)).toFinset.card ∧
    List.Forall₂ (fun f i => f.IsInstructed m.dependency m.accessors i ∧
      i.controller ∈ m.plan.controllers.map (·.controller)) m.fixes m.plan.instructions ∧
    ∀ xs ys,
      controllersOf (xs ++ ys) = controllersOf xs ++ (controllersOf ys).filter (· ∉ controllersOf xs) ∧
      { m with fixes := xs }.plan.controllers <+: { m with fixes := xs ++ ys }.plan.controllers ∧
      { m with fixes := xs }.plan.instructions <+: { m with fixes := xs ++ ys }.plan.instructions := by
  have hnames : m.plan.controllers.map (·.controller) = controllersOf m.fixes := by
    rw [plan, List.map_map]
    exact List.map_id _
  have hlists := controllersOf_listsOnce m.fixes
  rw [hnames]
  refine ⟨hlists, ?_, ?_, fun xs ys => ⟨controllersOf_append xs ys, ?_, ?_⟩⟩
  · have hset : (m.fixes.map (·.controller)).toFinset = (controllersOf m.fixes).toFinset := by
      ext c
      rw [List.mem_toFinset, List.mem_toFinset, hlists.mem_iff]
    rw [hset, List.toFinset_card_of_nodup hlists.nodup, ← hnames, List.length_map, FixPlan.total]
  · refine List.forall₂_map_right_iff.2 (List.forall₂_same.2 fun f hf => ?_)
    exact ⟨f.isInstructed_instruction _ _, (hlists.mem_iff _).2 (List.mem_map_of_mem hf)⟩
  · simp only [plan, controllersOf_append, List.map_append]
    exact List.prefix_append _ _
  · simp only [plan, List.map_append]
    exact List.prefix_append _ _

end Wiring
