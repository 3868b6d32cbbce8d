import Mathlib.Data.List.Nodup
import Mathlib.Order.Nat
import Wiring.Proofs.Template
import Wiring.Proofs.Validity

/-!
# The first fault of a manifest

A manifest is accepted when its template, its dependency and its names are well formed and no name is
listed twice. Otherwise the fault is that of the template, or else of the dependency, or else of the first
name in the order of the lists that is ill formed or stands before already. Main statement:
`Manifest.fault?_exact`.
-/

namespace Wiring

/-! ## Words, paths and templates -/

def IsLetter (c : Char) : Prop := ('a' ≤ c ∧ c ≤ 'z') ∨ ('A' ≤ c ∧ c ≤ 'Z')

def IsNameLetter (c : Char) : Prop := IsLetter c ∨ ('0' ≤ c ∧ c ≤ '9') ∨ c = '_'

def IsIdentifier (s : Text) : Prop :=
  ∃ c w, s = c :: w ∧ (IsLetter c ∨ c = '_') ∧ ∀ d ∈ w, IsNameLetter d

def IsNamePath (n : Text) : Prop :=
  ∃ segments : List Text, segments ≠ [] ∧ (∀ w ∈ segments, w ≠ [] ∧ ∀ c ∈ w, IsNameLetter c) ∧
    n = joinWith ['/'] segments

theorem isAlpha_iff {c : Char} : c.isAlpha = true ↔ IsLetter c := by
  have hletter : c.isAlpha = (c.isUpper || c.isLower) := rfl
  have hupper : c.isUpper = decide ('A' ≤ c ∧ c ≤ 'Z') := rfl
  have hlower : c.isLower = (decide ('a' ≤ c) && decide (c ≤ 'z')) := rfl
  rw [hletter, Bool.or_eq_true, or_comm, hupper, hlower, decide_eq_true_eq, Bool.and_eq_true,
    decide_eq_true_eq, decide_eq_true_eq]
  rfl

theorem isNameCharacter_iff {c : Char} : isNameCharacter c = true ↔ IsNameLetter c := by
  rw [isNameCharacter, Char.isAlphanum, Bool.or_eq_true, Bool.or_eq_true, isAlpha_iff, beq_iff_eq,
    or_assoc, Char.isDigit, Bool.and_eq_true, decide_eq_true_eq, decide_eq_true_eq]
  rfl

theorem isIdentifier_iff {s : Text} : isIdentifier s = true ↔ IsIdentifier s := by
  cases s with
  | nil => simp [isIdentifier, IsIdentifier]
  | cons c w =>
    have hletters : (w.all fun d => d.isAlphanum || d == '_') = true ↔ ∀ d ∈ w, IsNameLetter d := by
      rw [List.all_eq_true]
      exact forall₂_congr fun d _ => isNameCharacter_iff
    rw [isIdentifier, Bool.and_eq_true, hletters, isIdentifierStart, Bool.or_eq_true, isAlpha_iff,
      beq_iff_eq]
    simp [IsIdentifier]

theorem joinWith_pieces (z : Char) (s : Text) : joinWith [z] (pieces z s) = s := by
  induction s with
  | nil => rfl
  | cons c s ih =>
    obtain ⟨p, ps, hp⟩ := List.exists_cons_of_ne_nil (pieces_ne_nil z s)
    rw [hp] at ih
    by_cases hc : c = z
    · rw [pieces, if_pos hc, hp, joinWith, ih, hc]
      rfl
    · rw [pieces, if_neg hc, hp, ← ih]
      cases ps <;> rfl

theorem pieces_joinWith {z : Char} {segments : List Text} (hne : segments ≠ [])
    (h : ∀ w ∈ segments, z ∉ w) : pieces z (joinWith [z] segments) = segments := by
  fun_induction joinWith [z] segments with
  | case1 => exact absurd rfl hne
  | case2 w => exact pieces_of_notMem (h w (by simp))
  | case3 w v segments ih =>
    obtain ⟨hw, hrest⟩ := List.forall_mem_cons.1 h
    rw [List.append_assoc, List.singleton_append, pieces_append_separator hw,
      ih (List.cons_ne_nil _ _) hrest]

theorem isControllerPath_iff {n : Text} : isControllerPath n = true ↔ IsNamePath n := by
  have hall : isControllerPath n = true ↔ ∀ w ∈ pieces '/' n, w ≠ [] ∧ ∀ c ∈ w, IsNameLetter c := by
    simp only [isControllerPath, List.all_eq_true, Bool.and_eq_true, decide_eq_true_eq,
      isNameCharacter_iff]
  rw [hall]
  constructor
  · intro h
    exact ⟨_, pieces_ne_nil '/' n, h, (joinWith_pieces '/' n).symm⟩
  · intro h'
    obtain ⟨segments, hne, h, rfl⟩ := h'
    have hslash : ¬ IsNameLetter '/' := by
      rw [← isNameCharacter_iff]
      decide
    rwa [pieces_joinWith hne fun w hw hmem => hslash ((h w hw).2 _ hmem)]

instance : DecidablePred IsNamePath := fun _ => decidable_of_iff _ isControllerPath_iff

theorem hasPlaceholder_iff {template : Text} :
    hasPlaceholder template = true ↔ placeholder <:+: template := by
  induction template using hasPlaceholder.induct with
  | case1 s => exact iff_of_true rfl ⟨[], s, rfl⟩
  | case2 c s hs ih =>
    have hno : ¬ placeholder <+: c :: s := by
      intro h
      obtain ⟨t, ht⟩ := h
      obtain ⟨rfl, rfl⟩ := List.cons.inj ht
      exact hs t rfl rfl
    rw [hasPlaceholder, ih, List.infix_cons_iff, or_iff_right hno]
    exact hs
  | case3 => decide

/-! ## The fault of a list of names -/

def AreDistinctPaths (names : List Text) : Prop := (∀ n ∈ names, IsNamePath n) ∧ names.Nodup

def IsFaultyAt (names : List Text) (i : Nat) : Prop :=
  ∃ n, names[i]? = some n ∧ (¬ IsNamePath n ∨ n ∈ names.take i)

theorem areDistinctPaths_append_iff {names others : List Text} :
    AreDistinctPaths (names ++ others) ↔
      AreDistinctPaths names ∧ AreDistinctPaths others ∧ ∀ n ∈ others, n ∉ names := by
  simp only [AreDistinctPaths, List.forall_mem_append, List.nodup_append']
  constructor
  · intro h'
    obtain ⟨⟨hpaths, hothers⟩, hnodup, hnodup', hnew⟩ := h'
    exact ⟨⟨hpaths, hnodup⟩, ⟨hothers, hnodup'⟩, fun n hn hmem => hnew hmem hn⟩
  · intro h'
    obtain ⟨⟨hpaths, hnodup⟩, ⟨hothers, hnodup'⟩, hnew⟩ := h'
    exact ⟨⟨hpaths, hothers⟩, hnodup, hnodup', fun n hmem hn => hnew n hn hmem⟩

theorem areDistinctPaths_take_iff {names : List Text} {i : Nat} :
    AreDistinctPaths (names.take i) ↔ ∀ j < i, ¬ IsFaultyAt names j := by
  induction i with
  | zero => simp [AreDistinctPaths]
  | succ i ih =>
    rw [Nat.forall_lt_succ_right, ← ih, List.take_add_one]
    cases hi : names[i]? with
    | none => simp [IsFaultyAt, hi]
    | some n =>
      rw [Option.toList_some, areDistinctPaths_append_iff]
      simp [AreDistinctPaths, IsFaultyAt, hi]

theorem exists_isLeast_isFaultyAt {names : List Text} (h : ¬ AreDistinctPaths names) :
    ∃ i n, IsLeast {j | IsFaultyAt names j} i ∧ names[i]? = some n := by
  classical
  have hsome : ∃ j, IsFaultyAt names j := by
    rw [← List.take_length (l := names), areDistinctPaths_take_iff] at h
    simp only [not_forall, not_not] at h
    obtain ⟨j, -, hj⟩ := h
    exact ⟨j, hj⟩
  have hleast := Nat.isLeast_find hsome
  obtain ⟨n, hn, -⟩ := hleast.1
  exact ⟨_, n, hleast, hn⟩

theorem eq_take_append_cons {names : List Text} {i : Nat} {n : Text} (h : names[i]? = some n) :
    names = names.take i ++ n :: names.drop (i + 1) := by
  obtain ⟨hlt, rfl⟩ := List.getElem?_eq_some_iff.1 h
  rw [← List.drop_eq_getElem_cons hlt, List.take_append_drop]

theorem nameFault?_append (others seen xs ys : List Text) :
    nameFault? others seen (xs ++ ys) =
      (nameFault? others seen xs).or (nameFault? others (xs.reverse ++ seen) ys) := by
  induction xs generalizing seen with
  | nil => rfl
  | cons n xs ih =>
    rw [List.cons_append, nameFault?, nameFault?, ih, List.reverse_cons, List.append_assoc,
      List.singleton_append]
    split_ifs <;> rfl

theorem nameFault?_append_of_areDistinctPaths {others before : List Text}
    (h : AreDistinctPaths before) (hothers : ∀ n ∈ before, n ∉ others) (names : List Text) :
    nameFault? others [] (before ++ names) = nameFault? others before.reverse names := by
  have hnone : nameFault? others [] before = none := nameFault?_eq_none_iff.2
    ⟨fun n hn => ⟨isControllerPath_iff.2 (h.1 n hn), hothers n hn, List.not_mem_nil⟩, h.2⟩
  rw [nameFault?_append, hnone, Option.none_or, List.append_nil]

theorem nameFault?_cons_of_faulty {others seen : List Text} {n : Text}
    (h : ¬ IsNamePath n ∨ n ∈ others ∨ n ∈ seen) (names : List Text) :
    nameFault? others seen (n :: names) = some
      (if ¬ IsNamePath n then .badName n else if n ∈ others then .conflicting n else .duplicate n) := by
  simp only [nameFault?, isControllerPath_iff]
  by_cases hpath : IsNamePath n
  · by_cases hothers : n ∈ others
    · simp [hpath, hothers]
    · have hseen : n ∈ seen := (h.resolve_left (not_not.2 hpath)).resolve_left hothers
      simp [hpath, hothers, hseen]
  · simp [hpath]

/-! ## The fault of a manifest -/

namespace Manifest

def listed (m : Manifest) : List Text := m.extend ++ m.create

def faultOf (m : Manifest) (i : Nat) (n : Text) : ManifestFault :=
  if ¬ IsNamePath n then .badName n
  else if i < m.extend.length then .duplicate n
  else if m.extend.contains n then .conflicting n
  else .duplicate n

structure HasSoundHead (m : Manifest) : Prop where
  template : placeholder <:+: m.pathTemplate
  type : IsIdentifier m.dependency.type
  name : IsIdentifier m.dependency.name

structure IsWellFormed (m : Manifest) : Prop extends m.HasSoundHead where
  path : ∀ n ∈ m.listed, IsNamePath n
  nodup : m.listed.Nodup

/-- The faults of a manifest in the order in which they are looked for. -/
inductive IsFirstFault (m : Manifest) : ManifestFault → Prop
  | template (h : ¬ placeholder <:+: m.pathTemplate) : IsFirstFault m (.badTemplate m.pathTemplate)
  | type (ht : placeholder <:+: m.pathTemplate) (h : ¬ IsIdentifier m.dependency.type) :
    IsFirstFault m (.badDependencyType m.dependency.type)
  | name (ht : placeholder <:+: m.pathTemplate) (htype : IsIdentifier m.dependency.type)
    (h : ¬ IsIdentifier m.dependency.name) : IsFirstFault m (.badDependencyName m.dependency.name)
  | listed (hm : m.HasSoundHead) {i : Nat} {n : Text} (hi : IsLeast {j | IsFaultyAt m.listed j} i)
    (hn : m.listed[i]? = some n) : IsFirstFault m (m.faultOf i n)

variable {m : Manifest}

theorem isValid_iff_isWellFormed : m.IsValid ↔ m.IsWellFormed := by
  have hpaths : (∀ n ∈ m.listed, isControllerPath n) ↔ ∀ n ∈ m.listed, IsNamePath n :=
    forall₂_congr fun n _ => isControllerPath_iff
  constructor
  · intro h'
    obtain ⟨ht, htype, hname, hpath, hnodup⟩ := h'
    exact ⟨⟨hasPlaceholder_iff.1 ht, isIdentifier_iff.1 htype, isIdentifier_iff.1 hname⟩,
      hpaths.1 hpath, hnodup⟩
  · intro h'
    obtain ⟨⟨ht, htype, hname⟩, hpath, hnodup⟩ := h'
    exact ⟨hasPlaceholder_iff.2 ht, isIdentifier_iff.2 htype, isIdentifier_iff.2 hname,
      hpaths.2 hpath, hnodup⟩

theorem HasSoundHead.fault?_eq (hm : m.HasSoundHead) :
    m.fault? = (nameFault? [] [] m.extend).or (nameFault? m.extend [] m.create) := by
  rw [fault?, if_neg (not_not.2 (hasPlaceholder_iff.2 hm.template)),
    if_neg (not_not.2 (isIdentifier_iff.2 hm.type)), if_neg (not_not.2 (isIdentifier_iff.2 hm.name))]

theorem HasSoundHead.fault?_of_isLeast (hm : m.HasSoundHead) {i : Nat} {n : Text}
    (hi : IsLeast {j | IsFaultyAt m.listed j} i) (hn : m.listed[i]? = some n) :
    m.fault? = some (m.faultOf i n) := by
  have hbefore : AreDistinctPaths (m.listed.take i) :=
    areDistinctPaths_take_iff.2 fun j hj hfault => absurd (hi.2 hfault) (Nat.not_le.2 hj)
  have hfault : ¬ IsNamePath n ∨ n ∈ m.listed.take i := by
    obtain ⟨k, hk, h⟩ := hi.1
    rwa [Option.some.inj (hn.symm.trans hk)]
  simp only [hm.fault?_eq, faultOf, List.contains_iff_mem]
  rw [listed] at hbefore hfault hn
  rcases Nat.lt_or_ge i m.extend.length with hlt | hge
  · rw [List.take_append_of_le_length (Nat.le_of_lt hlt)] at hbefore hfault
    rw [List.getElem?_append_left hlt] at hn
    have hextend : nameFault? [] [] m.extend = some
        (if ¬ IsNamePath n then .badName n else if n ∈ [] then .conflicting n else .duplicate n) := by
      rw [eq_take_append_cons hn, nameFault?_append_of_areDistinctPaths hbefore (by simp)]
      exact nameFault?_cons_of_faulty (hfault.imp_right fun h => .inr (List.mem_reverse.2 h)) _
    rw [hextend, Option.some_or, if_pos hlt]
    simp only [List.not_mem_nil, if_false]
  · -- all names to extend are new, and the name is one of the others
    rw [List.take_append, List.take_of_length_le hge] at hbefore hfault
    rw [List.getElem?_append_right hge] at hn
    obtain ⟨hextend, hcreate, hnew⟩ := areDistinctPaths_append_iff.1 hbefore
    have hnone : nameFault? [] [] m.extend = none := by
      have h : nameFault? [] [] (m.extend ++ []) = none :=
        nameFault?_append_of_areDistinctPaths hextend (by simp) []
      rwa [List.append_nil] at h
    have hrest : nameFault? m.extend [] m.create = some
        (if ¬ IsNamePath n then .badName n
          else if n ∈ m.extend then .conflicting n else .duplicate n) := by
      rw [eq_take_append_cons hn, nameFault?_append_of_areDistinctPaths hcreate hnew]
      refine nameFault?_cons_of_faulty (hfault.imp_right fun h => ?_) _
      rwa [List.mem_reverse, ← List.mem_append]
    rw [hnone, Option.none_or, hrest, if_neg (Nat.not_lt.2 hge)]

theorem HasSoundHead.isWellFormed_iff (hm : m.HasSoundHead) :
    m.IsWellFormed ↔ AreDistinctPaths m.listed :=
  ⟨fun h => ⟨h.path, h.nodup⟩, fun h => ⟨hm, h.1, h.2⟩⟩

/-- A manifest is accepted exactly when it is well formed, and otherwise its first fault is reported. -/
theorem fault?_exact (m : Manifest) :
    (m.fault? = none ↔ m.IsWellFormed) ∧ ∀ f, m.fault? = some f ↔ m.IsFirstFault f := by
  have hvalid : m.fault? = none ↔ m.IsWellFormed := fault?_eq_none_iff.trans isValid_iff_isWellFormed
  have hfirst : ∀ f, m.IsFirstFault f → m.fault? = some f := by
    intro f hf
    cases hf with
    | template h => rw [fault?, if_pos (mt hasPlaceholder_iff.1 h)]
    | type ht h => rw [fault?, if_neg (not_not.2 (hasPlaceholder_iff.2 ht)), if_pos (mt isIdentifier_iff.1 h)]
    | name ht htype h =>
      rw [fault?, if_neg (not_not.2 (hasPlaceholder_iff.2 ht)),
        if_neg (not_not.2 (isIdentifier_iff.2 htype)), if_pos (mt isIdentifier_iff.1 h)]
    | listed hm hi hn => exact hm.fault?_of_isLeast hi hn
  refine ⟨hvalid, fun f => ⟨fun h => ?_, hfirst f⟩⟩
  -- there is a first fault, and it is the one that is reported
  have hex : ∃ f', m.IsFirstFault f' := by
    by_cases ht : placeholder <:+: m.pathTemplate
    · by_cases htype : IsIdentifier m.dependency.type
      · by_cases hname : IsIdentifier m.dependency.name
        · have hm : m.HasSoundHead := ⟨ht, htype, hname⟩
          have hnot : ¬ AreDistinctPaths m.listed := by
            rw [← hm.isWellFormed_iff, ← hvalid, h]
            exact Option.some_ne_none f
          obtain ⟨i, n, hi, hn⟩ := exists_isLeast_isFaultyAt hnot
          exact ⟨_, .listed hm hi hn⟩
        · exact ⟨_, .name ht htype hname⟩
      · exact ⟨_, .type ht htype⟩
    · exact ⟨_, .template ht⟩
  obtain ⟨f', hf'⟩ := hex
  rwa [Option.some.inj (h.symm.trans (hfirst f' hf'))]

end Manifest

end Wiring
