import Wiring.Proofs.Blanking
import Wiring.Proofs.Insertion

/-!
# Other bodies

A comment or a string can be given another body that its delimiters hold, of any length: the items
around it stay, and the lookups in the code find the same. Main statement: `Factors.lookups_eq`.
-/

namespace Wiring

section
variable {α : Type} {A : Alphabet α}

/-! ## What an item sees of the text after it -/

theorem Delimiter.OpensAt.congr {δ : Delimiter} {c : α} {s s' : List α} (hs : s.head? = s'.head?)
    (h : δ.OpensAt A (c :: s)) : δ.OpensAt A (c :: s') := by
  have hpair : ∀ x y : α, ∀ s : List α, [x, y] <+: c :: s ↔ x = c ∧ s.head? = some y := by
    intro x y s
    cases s <;> simp [eq_comm]
  unfold OpensAt at h ⊢
  cases δ <;> simp_all [Alphabet.word, opening]

theorem Delimiter.EndsBefore.congr {δ : Delimiter} {closed : Bool} {rest rest' : List α}
    (hrest : rest.head? = rest'.head?) (h : δ.EndsBefore A closed rest) :
    δ.EndsBefore A closed rest' := by
  cases closed with
  | false => exact List.head?_eq_none_iff.1 (hrest ▸ List.head?_eq_none_iff.2 h)
  | true => exact fun hδ => hrest ▸ h hδ

theorem Item.Fits.congr {item : Item α} {rest rest' : List α} (hrest : rest.head? = rest'.head?)
    (h : item.Fits A rest) : item.Fits A rest' := by
  cases item with
  | code c => exact fun δ hδ => h δ (hδ.congr hrest.symm)
  | enclosed δ body closed =>
    obtain ⟨hopens, hbody, hends⟩ := h
    obtain ⟨c, s, hs⟩ := List.exists_cons_of_ne_nil ((enclosed δ body closed).text_ne_nil (A := A))
    rw [hs, List.cons_append] at hopens
    refine ⟨?_, hbody, hends.congr hrest⟩
    rw [hs, List.cons_append]
    exact hopens.congr (by rw [List.head?_append, List.head?_append, hrest])

/-! ## Another body -/

variable {before after : List (Item α)} {δ : Delimiter} {body body' : List α} {closed : Bool}

theorem head?_of_other_body :
    ((before ++ .enclosed δ body closed :: after).flatMap (Item.text A)).head? =
      ((before ++ .enclosed δ body' closed :: after).flatMap (Item.text A)).head? := by
  cases before with
  | nil => cases δ <;> rfl
  | cons item before =>
    obtain ⟨c, t, ht⟩ := List.exists_cons_of_ne_nil (item.text_ne_nil (A := A))
    simp only [List.cons_append, List.flatMap_cons, ht, List.head?_cons]

theorem Delimiter.opensAt_text {rest : List α} (hrest : δ.EndsBefore A closed rest)
    (hhash : δ = .hash → body.head? ≠ some (A.mark .bracket)) :
    δ.OpensAt A ((Item.enclosed δ body closed).text A ++ rest) := by
  rw [Item.text, List.append_assoc, List.append_assoc]
  refine ⟨List.prefix_append _ _, ?_⟩
  intro hδ hbracket
  subst hδ
  have hbracket : [A.mark .bracket] <+: body ++ (hash.ending A closed ++ rest) :=
    (List.cons_prefix_cons.1 hbracket).2
  cases body with
  | nil =>
    have hne : hash.ending A closed ++ rest ≠ [] := by
      intro h
      rw [List.nil_append, h] at hbracket
      exact List.cons_ne_nil _ _ (List.prefix_nil.1 hbracket)
    have hstop := List.prefix_of_prefix_length_le hbracket (hrest.stop_prefix hne) le_rfl
    exact absurd (List.cons_prefix_cons.1 hstop).1 (A.mark.injective.ne (by decide))
  | cons c body =>
    obtain ⟨rfl, -⟩ := List.cons_prefix_cons.1 hbracket
    exact hhash rfl rfl

theorem Factors.replace {s : List α} (h : Factors A s (before ++ .enclosed δ body closed :: after))
    (hbody : δ.Holds A closed body') (hhash : δ = .hash → body'.head? ≠ some (A.mark .bracket)) :
    Factors A ((before ++ .enclosed δ body' closed :: after).flatMap (Item.text A))
      (before ++ .enclosed δ body' closed :: after) := by
  induction before generalizing s with
  | nil =>
    cases h with
    | cons hfits hrest =>
      rw [List.nil_append, List.flatMap_cons, ← hrest.eq_flatMap]
      exact .cons ⟨Delimiter.opensAt_text hfits.2.2 hhash, hbody, hfits.2.2⟩ hrest
  | cons item before ih =>
    cases h with
    | cons hfits hrest =>
      rw [List.cons_append, List.flatMap_cons]
      -- the item before sees one letter of the new text, and that is the old one
      refine .cons (hfits.congr ?_) (ih hrest)
      rw [hrest.eq_flatMap]
      exact head?_of_other_body

end

/-! ## The lookups -/

section
variable {s : Text} {before after : List (Item Char)} {δ : Delimiter} {body body' : Text} {closed : Bool}

theorem mask_of_enclosed (h : Factors characters s (before ++ .enclosed δ body closed :: after)) :
    mask s = before.flatMap (Item.masked characters) ++ δ.shown characters (characters.word δ.opening) ++
      (body.flatMap blanked ++ (δ.shown characters (δ.ending characters closed) ++
        after.flatMap (Item.masked characters))) := by
  rw [mask_eq_flatMap h, List.flatMap_append, List.flatMap_cons, Item.masked]
  simp only [List.append_assoc]
  rfl

theorem Delimiter.getLast?_shown_opening (δ : Delimiter) : ∃ e,
    (δ.shown characters (characters.word δ.opening)).getLast? = some e ∧ e ∈ [' ', '\'', '"'] := by
  cases δ with
  | slashes | hash | block => exact ⟨' ', by decide, by decide⟩
  | single => exact ⟨'\'', by decide, by decide⟩
  | double => exact ⟨'"', by decide, by decide⟩

/-- What stands in comments and strings has no say in the lookups. -/
theorem Factors.lookups_eq (h : Factors characters s (before ++ .enclosed δ body closed :: after))
    (hbody : δ.Holds characters closed body') (hhash : δ = .hash → body'.head? ≠ some '[') :
    let s' := (before ++ .enclosed δ body' closed :: after).flatMap (Item.text characters)
    declaresConstructor s' = declaresConstructor s ∧
      ∀ d : Dependency, d.IsNamed → d.isTaken s' = d.isTaken s := by
  intro s'
  -- both codes are one code with blanks inserted after the opening
  have hmask := mask_of_enclosed h
  have hmask' : mask s' = _ := mask_of_enclosed (h.replace hbody hhash)
  obtain ⟨e, he, hmem⟩ := δ.getLast?_shown_opening
  generalize hcode : before.flatMap (Item.masked characters) ++ _ = a at hmask hmask'
  replace he : a.getLast? = some e := by rw [← hcode, List.getLast?_append, he]; rfl
  generalize δ.shown characters (δ.ending characters closed) ++ _ = b at hmask hmask'
  obtain ⟨hword, hopen, hvariable⟩ : isWord e = false ∧ e ≠ '(' ∧ e ≠ '$' := by
    simp only [List.mem_cons, List.not_mem_nil, or_false] at hmem
    rcases hmem with rfl | rfl | rfl <;> decide
  have hblank : ∀ w : Text, ∀ c ∈ w.flatMap blanked, isBlank c = true :=
    fun _ => isBlank_of_mem_flatMap_blanked
  constructor
  · simp only [declaresConstructor, parameterSpan?, hmask, hmask', Option.isSome_map,
      parameterList?_insert_blanks he hword (hblank _) hopen]
  · intro d hd
    rw [d.isTaken_eq_any, d.isTaken_eq_any, hmask, hmask',
      hd.any_isAmong_insert_blanks he hword (hblank _) hopen hvariable,
      hd.any_isAmong_insert_blanks he hword (hblank _) hopen hvariable]

end

def withString (x note y : Text) : List (Item Char) :=
  x.map .code ++ .enclosed .single note true :: y.map .code

theorem factors_withString {x note y : Text} (hx : ∀ m : Mark, m.char ∉ x) (hy : ∀ m : Mark, m.char ∉ y)
    (h : Delimiter.single.Holds characters true note) :
    Factors characters ((withString x note y).flatMap (Item.text characters)) (withString x note y) := by
  have hcode : ∀ {s : Text}, (∀ m : Mark, m.char ∉ s) → ∀ c ∈ s, ∀ m, c ≠ characters.mark m := by
    intro s hs c hc m hm
    subst hm
    exact hs m hc
  have htext : ∀ s : Text, (s.map .code).flatMap (Item.text characters) = s := by
    intro s
    rw [List.flatMap_map]
    exact List.flatMap_singleton' s
  have hrest := Factors.append_of_ne_mark (hcode hy) .nil
  rw [List.append_nil, List.append_nil] at hrest
  rw [withString, List.flatMap_append, List.flatMap_cons, htext, htext]
  have hends : Delimiter.single.EndsBefore characters true y := nofun
  exact .append_of_ne_mark (hcode hx) (.cons ⟨Delimiter.opensAt_text hends nofun, h, hends⟩ hrest)

def notedController (note : Text) : List (Item Char) :=
  withString "class A \x7b const NOTE = ".toList note "; function __construct(Clock $clock) \x7b\x7d \x7d".toList

theorem Factors.lookups_eq_notedController :
    let s := (notedController "none".toList).flatMap (Item.text characters)
    let s' := (notedController "function __construct(".toList).flatMap (Item.text characters)
    Factors characters s (notedController "none".toList) ∧
      Delimiter.single.Holds characters true "function __construct(".toList ∧
      declaresConstructor s' = declaresConstructor s ∧
      ∀ d : Dependency, d.IsNamed → d.isTaken s' = d.isTaken s := by
  have hbody : ∀ note : Text, note.all (fun c => c ≠ '\'' ∧ c ≠ '\\') = true →
      Delimiter.single.Holds characters true note := fun _ hnote =>
    StringBody.of_forall (List.all_iff_forall_prop.1 hnote)
  have h := factors_withString (x := "class A \x7b const NOTE = ".toList)
    (y := "; function __construct(Clock $clock) \x7b\x7d \x7d".toList) (fun m => by cases m <;> decide)
    (fun m => by cases m <;> decide) (hbody "none".toList (by decide))
  have hnote := hbody "function __construct(".toList (by decide)
  exact ⟨h, hnote, h.lookups_eq hnote nofun⟩

end Wiring
