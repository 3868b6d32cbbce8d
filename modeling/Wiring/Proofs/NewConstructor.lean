import Mathlib.Data.List.Infix
import Wiring.Proofs.Parameter

/-!
# A constructor of its own

A constructor that is added after a class header becomes the class constructor exactly when the
header ends one brace deep in code: `parameterList?_newConstructor`. The constructors around it are
open as before: `firstOpen?_addConstructor_eq_none_iff`.
-/

namespace Wiring

/-! ## The parts of the constructor -/

def newOpening : Text := "    public function __construct(".toList

def Dependency.newList (d : Dependency) (lineBreak : Text) : Text :=
  lineBreak ++ (List.replicate 8 ' ' ++ (d.parameter ++ (lineBreak ++ List.replicate 4 ' ')))

def newClosing (lineBreak : Text) : Text :=
  " \x7b".toList ++ (lineBreak ++ ("    \x7d".toList ++ (lineBreak ++ lineBreak)))

theorem Dependency.newConstructor_eq (d : Dependency) (lineBreak : Text) :
    d.newConstructor lineBreak = newOpening ++ (d.newList lineBreak ++ ')' :: newClosing lineBreak) := by
  have hlines : ∀ b₁ b₂ b₃ b₄ : Text, joinWith lineBreak [b₁, b₂, b₃, b₄, [], []] =
      b₁ ++ (lineBreak ++ (b₂ ++ (lineBreak ++ (b₃ ++ (lineBreak ++ (b₄ ++ (lineBreak ++ lineBreak)))))))
      := fun b₁ b₂ b₃ b₄ => by simp [joinWith]
  have hspaces : "        ".toList = List.replicate 8 ' ' := by decide
  have hclose : "    ) \x7b".toList = List.replicate 4 ' ' ++ ')' :: " \x7b".toList := by decide
  refine (hlines _ _ _ _).trans (congrArg (newOpening ++ ·) ?_)
  simp only [hspaces, hclose, newList, newClosing]
  generalize " \x7b".toList = b₁, "    \x7d".toList = b₂
  simp only [List.append_assoc, List.cons_append]

/-! ## Its characters -/

section
variable {d : Dependency} (hd : d.IsNamed) {lineBreak : Text} (hb : IsLineBreak lineBreak)
include hd hb

theorem Dependency.IsNamed.mem_newList {c : Char} (hc : c ∈ d.newList lineBreak) :
    isAsciiWord c = true ∨ isBlank c = true ∨ c = '$' := by
  have hspace : ∀ n, c ∈ List.replicate n ' ' → isBlank c = true := fun n h =>
    isBlank_of_isIndent (isIndent_replicate n c h)
  simp only [newList, List.mem_append] at hc
  rcases hc with h | h | h | h | h
  · exact .inr (.inl (hb.isBlank c h))
  · exact .inr (.inl (hspace 8 h))
  · refine (hd.mem_parameter h).imp_right (.imp_left ?_)
    rintro rfl
    decide
  · exact .inr (.inl (hb.isBlank c h))
  · exact .inr (.inl (hspace 4 h))

theorem Dependency.IsNamed.notMem_newList {c : Char}
    (hc : isAsciiWord c = false ∧ isBlank c = false ∧ c ≠ '$') : c ∉ d.newList lineBreak := fun h => by
  rcases hd.mem_newList hb h with h | h | h
  · simp [h] at hc
  · simp [h] at hc
  · exact hc.2.2 h

omit hd in
theorem mem_newClosing {c : Char} (hc : c ∈ newClosing lineBreak) :
    isBlank c = true ∨ c = '{' ∨ c = '}' := by
  simp only [newClosing, List.mem_append] at hc
  rcases hc with h | h | h | h | h
  · exact (List.all_iff_forall_prop.1 (by decide) :
      ∀ c ∈ " \x7b".toList, isBlank c = true ∨ c = '{' ∨ c = '}') c h
  · exact .inl (hb.isBlank c h)
  · exact (List.all_iff_forall_prop.1 (by decide) :
      ∀ c ∈ "    \x7d".toList, isBlank c = true ∨ c = '{' ∨ c = '}') c h
  · exact .inl (hb.isBlank c h)
  · exact .inl (hb.isBlank c h)

omit hd in
theorem newConstructor_getLast? (d : Dependency) :
    (d.newConstructor lineBreak).getLast? = some '\n' := by
  rw [Dependency.newConstructor_eq, newClosing]
  simp only [← List.append_assoc, ← List.cons_append]
  rw [List.getLast?_append, hb.getLast?]
  rfl

theorem Dependency.IsNamed.isInert_newConstructor : IsInert (d.newConstructor lineBreak) := by
  refine ⟨fun c hc => ?_, fun e he => ?_⟩
  · simp only [newConstructor_eq, List.mem_append, List.mem_cons] at hc
    rcases hc with h | h | rfl | h
    · exact (List.all_iff_forall_prop.1 (by decide) :
        ∀ c ∈ newOpening, c ≠ '/' ∧ c ≠ '#' ∧ c ≠ '\'' ∧ c ≠ '"') c h
    · refine ⟨?_, ?_, ?_, ?_⟩ <;> (rintro rfl; exact hd.notMem_newList hb (by decide) h)
    · decide
    · rcases mem_newClosing hb h with h | rfl | rfl
      · exact inert_of_isBlank h
      · decide
      · decide
  · rw [newConstructor_getLast? hb] at he
    obtain rfl := Option.some.inj he
    decide

end

/-! ## Its name -/

def memberVisibility : Text := "    public ".toList

def memberName : Text := "function __construct(".toList

theorem newOpening_eq : newOpening = memberVisibility ++ memberName := by decide

theorem constructorName_after?_memberName (r : Text) :
    constructorName.after? (memberName ++ r) = some r := rfl

theorem Dependency.brace_mem_of_suffix (d : Dependency) {lineBreak : Text} (hb : IsLineBreak lineBreak)
    {x : Text} (hx : x <:+ d.newList lineBreak ++ ')' :: newClosing lineBreak)
    (hhead : x.head?.any (!isBlank ·) = true) : '}' ∈ x := by
  obtain ⟨e, he, hvisible⟩ := (Option.any_eq_true _ _).1 hhead
  rw [show d.newList lineBreak ++ ')' :: newClosing lineBreak =
    (d.newList lineBreak ++ ')' :: (" \x7b".toList ++ (lineBreak ++ "    \x7d".toList))) ++
      (lineBreak ++ lineBreak) by simp only [newClosing, List.append_assoc, List.cons_append]] at hx
  rcases suffix_append_cases hx with hxb | ⟨v, hv, hvl, rfl⟩
  · have hmem := hxb.subset (List.mem_of_mem_head? he)
    simp only [List.mem_append, or_self] at hmem
    simp [hb.isBlank _ hmem] at hvisible
  · have hlast : v.getLast? = some '}' := by
      obtain ⟨t, ht⟩ := hvl
      have := congrArg List.getLast? ht
      rw [List.getLast?_append, List.getLast?_eq_some_getLast hv, Option.some_or] at this
      rw [List.getLast?_eq_some_getLast hv, this]
      simp only [← List.append_assoc, ← List.cons_append]
      rw [List.getLast?_append]
      rfl
    exact List.mem_append_left _ (List.mem_of_getLast? hlast)

theorem Dependency.IsNamed.eq_of_after?_constructorName {d : Dependency} (hd : d.IsNamed)
    {lineBreak : Text} (hb : IsLineBreak lineBreak) {x b list : Text} (hx : x ≠ [])
    (hxn : x <:+ d.newConstructor lineBreak) (h : constructorName.after? (x ++ b) = some list) :
    x = memberName ++ (d.newList lineBreak ++ ')' :: newClosing lineBreak) := by
  have hhead : x.head? = some 'f' := by
    obtain ⟨c, x, rfl⟩ := List.exists_cons_of_ne_nil hx
    simpa using head?_of_constructorName h
  rw [newConstructor_eq] at hxn
  rcases suffix_append_cases hxn with hxl | ⟨v, hne, hv, rfl⟩
  · exfalso
    -- after the parenthesis of the name there is no other, and the name has no brace
    have hopen : '(' ∉ x := fun hmem => by
      have := hxl.subset hmem
      simp only [List.mem_append, List.mem_cons] at this
      rcases this with h | h | h
      · exact hd.notMem_newList hb (by decide) h
      · cases h
      · exact absurd (mem_newClosing hb h) (by decide)
    have hbrace : '}' ∈ x := d.brace_mem_of_suffix hb hxl (by rw [hhead]; rfl)
    obtain ⟨c, hc, hcx, heq, -⟩ := constructorName_endsIn.after?_local h
    have hcbrace : '}' ∉ c := hcx '}' (by decide) (by
      simp [Phrase.Excludes, constructorName, Token.Excludes])
    rcases List.append_eq_append_iff.1 heq with ⟨v, rfl, -⟩ | ⟨v, rfl, hv⟩
    · simp [hbrace] at hcbrace
    · cases v with
      | nil => simp only [List.append_nil] at hbrace; exact hcbrace hbrace
      | cons e v =>
        obtain rfl := (List.cons.inj hv).1
        simp at hopen
  · have hname : ∀ v ∈ newOpening.tails, v.head? = some 'f' → v = memberName := by decide
    obtain ⟨c, v, rfl⟩ := List.exists_cons_of_ne_nil hne
    rw [hname _ ((List.mem_tails _ _).2 hv) (by simpa using hhead)]

/-! ## In code -/

section
variable {d : Dependency} (hd : d.IsNamed) {lineBreak : Text} (hb : IsLineBreak lineBreak)
include hd hb

theorem Dependency.IsNamed.insideParentheses?_newList (n : Nat) (s : Text) :
    insideParentheses? n (d.newList lineBreak ++ s) =
      (insideParentheses? n s).map (d.newList lineBreak ++ ·) :=
  insideParentheses?_append (hd.notMem_newList hb (by decide)) (hd.notMem_newList hb (by decide)) n s

theorem Dependency.IsNamed.isBalanced_newConstructor : IsBalanced (d.newConstructor lineBreak) := by
  have hclosing : ∀ c, c = '(' ∨ c = ')' → c ∉ newClosing lineBreak := fun c hc hmem => by
    rcases hc with rfl | rfl <;> exact absurd (mem_newClosing hb hmem) (by decide)
  have hpublic : IsBalanced "    public function __construct".toList := fun n s =>
    insideParentheses?_append (by decide) (by decide) n s
  intro n s
  have hopening : newOpening = "    public function __construct".toList ++ ['('] := by decide
  rw [newConstructor_eq, hopening]
  simp only [List.append_assoc, List.cons_append, List.nil_append]
  rw [hpublic]
  simp only [insideParentheses?, Char.reduceEq, ite_false, ite_true,
    hd.insideParentheses?_newList hb,
    insideParentheses?_append (hclosing _ (.inl rfl)) (hclosing _ (.inr rfl)), Option.map_map]
  congr 1

theorem Dependency.IsNamed.openBraces_newConstructor :
    openBraces (d.newConstructor lineBreak) = 0 := by
  have hopening : openBraces newOpening = 0 := by decide
  have hlist : openBraces (d.newList lineBreak) = 0 := openBraces_of_flat
    ⟨hd.notMem_newList hb (by decide), hd.notMem_newList hb (by decide),
      hd.notMem_newList hb (by decide), hd.notMem_newList hb (by decide)⟩
  have hclosing : openBraces (')' :: newClosing lineBreak) = 0 := by
    rcases hb with rfl | rfl <;> decide
  rw [newConstructor_eq, openBraces_append, openBraces_append, hopening, hlist, hclosing]
  rfl

omit hd hb in
theorem Dependency.stops_newConstructor (d : Dependency) (lineBreak b : Text) :
    constructorName.Stops (d.newConstructor lineBreak ++ b) := by
  refine constructorName_isMarked.stops (Settles.append ?_ b) List.prefix_rfl
  rw [newConstructor_eq]
  exact Settles.append ⟨"    ".toList, 'p', "ublic function __construct(".toList, rfl,
    List.all_iff_forall_prop.1 (by decide), .inl (by decide)⟩ _

theorem Dependency.IsNamed.parameterListAt?_before_newConstructor {p x b : Text}
    (hx : x.getLast? = some '\n') (h : parameterListAt? p (x ++ b) = none) :
    parameterListAt? p (x ++ (d.newConstructor lineBreak ++ b)) = none := by
  -- the name of a constructor ends in the first part, or does not go on with the new one
  rcases Phrase.after?_append_of_stops hx (constructorName_isFirm.excludes '\n' rfl) with hr | hr
  · exact parameterListAt?_eq_none (hr _ fun _ => d.stops_newConstructor lineBreak b)
  · obtain ⟨y, -, hy⟩ := hr
    obtain ⟨c, hc, -⟩ := Phrase.after?_eq_append (hy [])
    simp only [List.append_nil] at hc
    have hshort := hy b
    have hlong := hy (d.newConstructor lineBreak ++ b)
    rw [hc, List.append_assoc] at h hshort hlong ⊢
    rw [parameterListAt?_eq hshort] at h
    rw [parameterListAt?_eq hlong]
    split
    · rfl
    · rename_i hp
      rw [if_neg hp, Option.map_eq_none_iff] at h
      rw [insideParentheses?_insert (hd.isBalanced_newConstructor hb), h]
      rfl

theorem Dependency.IsNamed.eq_memberName {v z b list : Text} (hz : z ≠ [])
    (hvz : d.newConstructor lineBreak = v ++ z) (hlist : constructorName.after? (z ++ b) = some list) :
    v = memberVisibility ∧
      z = memberName ++ (d.newList lineBreak ++ ')' :: newClosing lineBreak) := by
  obtain rfl := hd.eq_of_after?_constructorName hb hz ⟨v, hvz.symm⟩ hlist
  rw [newConstructor_eq, newOpening_eq, List.append_assoc] at hvz
  exact ⟨(List.append_cancel_right hvz).symm, rfl⟩

theorem Dependency.IsNamed.parameterListAt?_memberName (a b : Text) :
    parameterListAt? (a ++ memberVisibility).reverse
        (memberName ++ (d.newList lineBreak ++ ')' :: newClosing lineBreak) ++ b) =
      if openBraces a = 1 then some ⟨a ++ newOpening, d.newList lineBreak⟩ else none := by
  have hinside : insideParentheses? 0 (d.newList lineBreak ++ ')' :: newClosing lineBreak ++ b) =
      some (d.newList lineBreak) := by
    rw [List.append_assoc, hd.insideParentheses?_newList hb]
    simp [insideParentheses?]
  have hword : isWordAt (a ++ memberVisibility).reverse.head? = false := by
    rw [List.head?_reverse, List.getLast?_append]
    rfl
  have hdepth : openBraces (a ++ memberVisibility).reverse = openBraces a := by
    rw [openBraces_reverse, openBraces_append]
    exact Int.add_zero _
  rw [List.append_assoc, parameterListAt?_eq (constructorName_after?_memberName _), hword, hdepth,
    hinside, List.reverse_reverse, List.append_assoc, ← newOpening_eq]
  by_cases hone : openBraces a = 1
  · rw [if_pos hone, if_neg (by simp [hone]), Option.map_some]
  · rw [if_neg hone, if_pos (.inr hone)]

theorem Dependency.IsNamed.parameterListAt?_after_newConstructor {a v r : Text}
    (ha : a.getLast? = some '\n') (h : parameterListAt? (a ++ v).reverse r = none) :
    parameterListAt? (a ++ (d.newConstructor lineBreak ++ v)).reverse r = none := by
  cases hr : constructorName.after? r with
  | none => exact parameterListAt?_eq_none hr
  | some list =>
    obtain ⟨c, rfl, -⟩ := Phrase.after?_eq_append hr
    have hword : isWordAt (a ++ (d.newConstructor lineBreak ++ v)).reverse.head? =
        isWordAt (a ++ v).reverse.head? := by
      have hal : isWordAt a.getLast? = false := by rw [ha]; decide
      have hnl : isWordAt (a ++ d.newConstructor lineBreak).getLast? = false := by
        rw [List.getLast?_append, newConstructor_getLast? hb, Option.some_or]
        decide
      simpa using isWordAt_head?_insert hal hnl v
    have hdepth : openBraces (a ++ (d.newConstructor lineBreak ++ v)).reverse =
        openBraces (a ++ v).reverse := by
      rw [openBraces_reverse, openBraces_reverse, openBraces_append, openBraces_append,
        openBraces_append, hd.openBraces_newConstructor hb, Int.zero_add]
    rw [parameterListAt?_eq hr] at h ⊢
    rw [hword, hdepth]
    split
    · rfl
    · rename_i hp
      rw [if_neg hp, Option.map_eq_none_iff] at h
      rw [h]
      rfl

/-- In code without a class constructor the new one becomes it, if it stands one brace deep. -/
theorem Dependency.IsNamed.parameterList?_newConstructor {a b : Text} (ha : a.getLast? = some '\n')
    (h : parameterList? (a ++ b) = none) :
    parameterList? (a ++ (d.newConstructor lineBreak ++ b)) =
      if openBraces a = 1 then some ⟨a ++ newOpening, d.newList lineBreak⟩ else none := by
  have hnone := leftmost_eq_none_iff.1 h
  have hbefore : ∀ p x, a = p ++ x → x ≠ [] →
      parameterListAt? p.reverse (x ++ (d.newConstructor lineBreak ++ b)) = none := by
    intro p x hpx hx
    have hxl : x.getLast? = some '\n' := by
      rw [hpx, List.getLast?_append, List.getLast?_eq_some_getLast hx, Option.some_or] at ha
      rw [List.getLast?_eq_some_getLast hx, ha]
    exact hd.parameterListAt?_before_newConstructor hb hxl
      (hnone p (x ++ b) (by rw [hpx, List.append_assoc]))
  have hat := hd.parameterListAt?_memberName hb a b
  split
  · rename_i hone
    refine leftmost_eq_some_iff.2 ⟨a ++ memberVisibility, _, ?_, hat.trans (if_pos hone), ?_⟩
    · rw [newConstructor_eq, newOpening_eq]
      simp only [List.append_assoc]
    · intro x y hxy hlen
      rcases append_split_cases hxy with ⟨z, hz, hax, rfl⟩ | ⟨v, z, hz, hvz, rfl, rfl⟩ | ⟨v, -, rfl⟩
      · exact hbefore x z hax hz
      · cases hr : constructorName.after? (z ++ b) with
        | none => exact parameterListAt?_eq_none hr
        | some list =>
          obtain ⟨rfl, -⟩ := hd.eq_memberName hb hz hvz hr
          exact absurd hlen (Nat.lt_irrefl _)
      · rw [newConstructor_eq, newOpening_eq] at hlen
        simp only [List.length_append] at hlen
        omega
  · rename_i hone
    apply leftmost_eq_none_iff.2
    intro x y hxy
    rcases append_split_cases hxy with ⟨z, hz, hax, rfl⟩ | ⟨v, z, hz, hvz, rfl, rfl⟩ | ⟨v, hbv, rfl⟩
    · exact hbefore x z hax hz
    · cases hr : constructorName.after? (z ++ b) with
      | none => exact parameterListAt?_eq_none hr
      | some list =>
        obtain ⟨rfl, rfl⟩ := hd.eq_memberName hb hz hvz hr
        rw [hat, if_neg hone]
    · exact hd.parameterListAt?_after_newConstructor hb ha
        (hnone (a ++ v) y (by rw [hbv, List.append_assoc]))

end

/-! ## In a source -/

def InClassBody (a b : Text) : Prop := regionAt a b = .code ∧ openBraces (mask a) = 1

instance (a b : Text) : Decidable (InClassBody a b) := inferInstanceAs (Decidable (_ ∧ _))

theorem Dependency.addConstructor_eq (d : Dependency) (s : Text) :
    d.addConstructor s = (firstHeader? s).map fun p =>
      p.1 ++ p.2.header ++ (d.newConstructor p.2.lineBreak ++ p.2.rest) := by
  rw [addConstructor, firstHeader?, ← leftmost_map]
  simp [Option.map_map, Function.comp_def]

theorem maskPart_eq_mask {a : Text} (ha : ∀ e ∈ a.getLast?, looksAhead e = false)
    (next : Option Char) : maskPart next .code a = mask a := by
  have h := mask_append a []
  simp only [List.append_nil, maskFrom, List.head?_nil] at h
  rw [h, maskPart_congr ha next none]

section
variable {d : Dependency} (hd : d.IsNamed) {s u : Text} {h : ClassHeader}
  (hs : firstHeader? s = some (u, h))
include hs

theorem getLast?_header : (u ++ h.header).getLast? = some '\n' ∧ IsLineBreak h.lineBreak ∧
    s = u ++ h.header ++ h.rest := by
  obtain ⟨rfl, hh⟩ := firstHeader?_eq_some hs
  obtain ⟨-, hb, ⟨c, i, hc, -⟩, -⟩ := classHeader?_parts hh
  refine ⟨?_, hb, rfl⟩
  rw [hc, ← List.cons_append, ← List.append_assoc, ← List.append_assoc, List.getLast?_append,
    hb.getLast?]
  rfl

include hd

theorem Dependency.IsNamed.parameterList?_addConstructor (hc : declaresConstructor s = false) :
    parameterList? (mask (u ++ h.header ++ (d.newConstructor h.lineBreak ++ h.rest))) =
      if InClassBody (u ++ h.header) h.rest then
        some ⟨mask (u ++ h.header) ++ newOpening, d.newList h.lineBreak⟩
      else none := by
  obtain ⟨hlast, hb, rfl⟩ := getLast?_header hs
  generalize u ++ h.header = a at *
  have hahead := looksAhead_of_lineEnd hlast
  have hopen := regionAt_isOpen_of_lineEnd hlast h.rest
  have hmask := mask_append a h.rest
  have hmask' := mask_insert hahead (hd.isInert_newConstructor hb) hopen
  rw [maskPart_eq_mask hahead] at hmask hmask'
  have hnone : parameterList? (mask a ++ maskFrom (regionAt a h.rest) h.rest) = none := by
    simpa [declaresConstructor, parameterSpan?, hmask] using hc
  rw [hmask']
  by_cases hcode : regionAt a h.rest = .code
  · have hlast' : (mask a).getLast? = some '\n' := by
      rw [← maskPart_eq_mask hahead h.rest.head?]
      exact getLast?_maskPart_of_code hlast (by decide) (by decide) hcode
    rw [hcode, Region.shown, if_pos rfl]
    rw [hcode] at hnone
    rw [hd.parameterList?_newConstructor hb hlast' hnone]
    simp [InClassBody, hcode]
  · obtain ⟨e, he, hedge⟩ := getLast?_maskPart hlast none .code
    rw [maskPart_eq_mask hahead] at he
    have hedge : isEdge e = true := by rcases hedge with rfl | rfl <;> rfl
    rw [Region.shown, if_neg hcode, if_neg fun h => hcode h.1, parameterList?_insert_blanks he
      (isWord_of_isEdge hedge) isBlank_of_mem_flatMap_blanked (by rintro rfl; cases hedge), hnone]
    rfl

theorem Dependency.IsNamed.declaresConstructor_addConstructor_iff
    (hc : declaresConstructor s = false) :
    declaresConstructor (u ++ h.header ++ (d.newConstructor h.lineBreak ++ h.rest)) = true ↔
      InClassBody (u ++ h.header) h.rest := by
  rw [declaresConstructor, parameterSpan?, hd.parameterList?_addConstructor hs hc]
  split <;> simp_all

/-- A constructor that is added is recognised exactly one brace deep in code. -/
theorem Dependency.IsNamed.isTaken_addConstructor_iff (hc : declaresConstructor s = false) :
    d.isTaken (u ++ h.header ++ (d.newConstructor h.lineBreak ++ h.rest)) = true ↔
      InClassBody (u ++ h.header) h.rest := by
  rw [isTaken, hd.parameterList?_addConstructor hs hc]
  split
  · rename_i p hp
    split at hp
    · rename_i hin
      refine iff_of_true ?_ hin
      rw [← (ParameterList.mk.inj (Option.some.inj hp)).2]
      obtain ⟨-, hb, -⟩ := getLast?_header hs
      obtain ⟨c, b, hcb, hcw⟩ : ∃ c b, h.lineBreak = c :: b ∧ isWord c = false := by
        rcases hb with hb | hb <;> exact ⟨_, _, hb, by decide⟩
      have hlist : d.newList h.lineBreak = (h.lineBreak ++ (List.replicate 8 ' ' ++ promotion)) ++
          (d.type ++ (' ' :: '$' :: (d.name ++ (h.lineBreak ++ List.replicate 4 ' ')))) := by
        simp only [newList, parameter_eq, List.append_assoc, List.cons_append]
      rw [hlist]
      refine isAmong_of_written hd ?_ ?_
      · have hpromotion : promotion.getLast? = some ' ' := by decide
        rw [← List.append_assoc, List.getLast?_append, hpromotion]
        exact (by decide : isWord ' ' = false)
      · rw [hcb]
        exact hcw
    · cases hp
  · rename_i hp
    split at hp
    · cases hp
    · rename_i hin
      exact iff_of_false (by simp) hin

theorem Dependency.IsNamed.firstOpen?_addConstructor_eq_none_iff :
    firstOpen? (u ++ h.header ++ (d.newConstructor h.lineBreak ++ h.rest)) = none ↔
      firstOpen? (u ++ h.header) = none ∧ firstOpen? h.rest = none := by
  obtain ⟨-, hb, -⟩ := getLast?_header hs
  obtain ⟨e, he, hew⟩ := hd.getLast?_parameter
  obtain ⟨p, hp⟩ := List.getLast?_eq_some_iff.1 he
  have hsplit : u ++ h.header ++ (d.newConstructor h.lineBreak ++ h.rest) =
      u ++ h.header ++ (newOpening ++ d.newList h.lineBreak) ++
        ')' :: (newClosing h.lineBreak ++ h.rest) := by
    rw [newConstructor_eq]
    simp only [List.append_assoc, List.cons_append]
  rw [hsplit]
  refine firstOpen?_closed_eq_none_iff ?_ ?_ ?_ ?_
  · intro hmem
    rcases List.mem_append.1 hmem with hmem | hmem
    · exact absurd hmem (by decide)
    · exact hd.notMem_newList hb (by decide) hmem
  · have hnew : newOpening = List.replicate 4 ' ' ++ 'p' :: "ublic function __construct(".toList := by
      decide
    have hindent : ∀ c ∈ List.replicate 4 ' ', isBlank c = true := fun c hc =>
      isBlank_of_isIndent (isIndent_replicate 4 c hc)
    rw [opensBody_iff, hnew, List.append_assoc, List.dropWhile_append_of_pos hindent,
      List.cons_append, List.dropWhile_cons_of_neg (by decide)]
    simp
  · have hblank : ',' ∉ h.lineBreak ++ List.replicate 4 ' ' := by
      rcases hb with hb | hb <;> rw [hb] <;> decide
    rw [newList, hp]
    have := not_endsOpen_of_last (x := u ++ h.header ++ (newOpening ++ (h.lineBreak ++
      (List.replicate 8 ' ' ++ p)))) ⟨isBlank_of_isAsciiWord hew, ?_⟩ hblank
    · simpa only [List.append_assoc, List.cons_append, List.nil_append] using this
    · rintro rfl
      exact absurd hew (by decide)
  · intro hmem
    rcases mem_newClosing hb hmem with h | h | h <;> exact absurd h (by decide)

omit hd in
theorem Dependency.firstHeader?_addConstructor (d : Dependency) :
    (firstHeader? (u ++ h.header ++ (d.newConstructor h.lineBreak ++ h.rest))).isSome = true := by
  obtain ⟨-, hh⟩ := firstHeader?_eq_some hs
  rw [List.append_assoc]
  refine leftmost_isSome ?_
  rw [Option.isSome_map]
  exact (classHeader?_parts hh).2.2.2 _

end

end Wiring
