import Wiring.Proofs.Lexical

/-!
# Comments and strings of an encoded text

A text and its encoding have the same comments and strings. Main statement: `Encoding.factors`.
-/

namespace Wiring

variable {α β : Type} {A : Alphabet α} {B : Alphabet β}

/-- A code for each letter in which the marks are letters of their own that no other code contains. -/
structure Encoding (A : Alphabet α) (B : Alphabet β) where
  code : α → List β
  code_mark (m : Mark) : code (A.mark m) = [B.mark m]
  eq_mark {c : α} {m : Mark} : B.mark m ∈ code c → c = A.mark m
  code_ne_nil (c : α) : code c ≠ []
  code_blank (c : α) : (A.blank c).flatMap code = (code c).flatMap B.blank

theorem Item.fits_of_ne_mark {c : α} (hc : ∀ m, c ≠ A.mark m) (rest : List α) :
    (Item.code c).Fits A rest := by
  intro δ hδ
  obtain ⟨⟨t, ht⟩, -⟩ := hδ
  cases δ <;> exact hc _ (List.cons.inj ht).1.symm

theorem Factors.append_of_ne_mark {s t : List α} {items : List (Item α)}
    (hs : ∀ c ∈ s, ∀ m, c ≠ A.mark m) (h : Factors A t items) :
    Factors A (s ++ t) (s.map .code ++ items) := by
  induction s with
  | nil => exact h
  | cons c s ih =>
    obtain ⟨hc, hs⟩ := List.forall_mem_cons.1 hs
    have hfits : (Item.code c).Fits A (s ++ t) := Item.fits_of_ne_mark hc _
    exact .cons hfits (ih hs)

theorem StringBody.append {quote : α} {closed : Bool} {s t : List α}
    (hs : ∀ c ∈ s, c ≠ quote ∧ c ≠ A.mark .backslash) (h : StringBody A quote closed t) :
    StringBody A quote closed (s ++ t) := by
  induction s with
  | nil => exact h
  | cons c s ih =>
    obtain ⟨⟨hquote, hescape⟩, hs⟩ := List.forall_mem_cons.1 hs
    exact .plain hquote hescape (ih hs)

/-- Without the quote and backslashes every text is a body. -/
theorem StringBody.of_forall {quote : α} {closed : Bool} {s : List α}
    (hs : ∀ c ∈ s, c ≠ quote ∧ c ≠ A.mark .backslash) : StringBody A quote closed s := by
  rw [← List.append_nil s]
  exact .append hs .nil

namespace Encoding

variable (E : Encoding A B)

def encode (s : List α) : List β := s.flatMap E.code

@[simp]
theorem encode_cons (c : α) (s : List α) : E.encode (c :: s) = E.code c ++ E.encode s := rfl

@[simp]
theorem encode_append (s t : List α) : E.encode (s ++ t) = E.encode s ++ E.encode t :=
  List.flatMap_append

theorem encode_singleton (c : α) : E.encode [c] = E.code c := List.append_nil _

theorem encode_word (marks : List Mark) : E.encode (A.word marks) = B.word marks := by
  induction marks with
  | nil => rfl
  | cons m marks ih =>
    show E.code (A.mark m) ++ E.encode (A.word marks) = [B.mark m] ++ B.word marks
    rw [E.code_mark, ih]

/-! ## Marks in an encoded text -/

theorem mark_mem_iff {m : Mark} {s : List α} : B.mark m ∈ E.encode s ↔ A.mark m ∈ s := by
  constructor
  · intro h
    obtain ⟨c, hc, hm⟩ := List.mem_flatMap.1 h
    rwa [E.eq_mark hm] at hc
  · intro h
    exact List.mem_flatMap.2 ⟨_, h, by rw [E.code_mark]; exact List.mem_singleton_self _⟩

theorem word_prefix_iff {marks : List Mark} {s : List α} :
    B.word marks <+: E.encode s ↔ A.word marks <+: s := by
  constructor
  · intro h
    induction marks generalizing s with
    | nil => exact List.nil_prefix
    | cons m marks ih =>
      cases s with
      | nil => exact absurd (List.prefix_nil.1 h) (List.cons_ne_nil _ _)
      | cons c s =>
        obtain ⟨b, bs, hb⟩ := List.exists_cons_of_ne_nil (E.code_ne_nil c)
        rw [encode_cons, hb] at h
        obtain ⟨rfl, -⟩ := List.cons_prefix_cons.1 h
        obtain rfl : c = A.mark m := E.eq_mark (by rw [hb]; exact List.mem_cons_self)
        rw [← hb, E.code_mark] at h
        exact List.cons_prefix_cons.2 ⟨rfl, ih (List.cons_prefix_cons.1 h).2⟩
  · intro h
    obtain ⟨t, rfl⟩ := h
    rw [encode_append, encode_word]
    exact List.prefix_append _ _

theorem infix_of_word_infix {m : Mark} {marks : List Mark} {s : List α}
    (h : B.word (m :: marks) <:+: E.encode s) : A.word (m :: marks) <:+: s := by
  -- a word cannot begin inside a code, save the code of its first mark
  have infix_of_not_mem : ∀ {x t : List β}, B.mark m ∉ x → B.word (m :: marks) <:+: x ++ t →
      B.word (m :: marks) <:+: t := by
    intro x t hx h
    induction x with
    | nil => exact h
    | cons b x ih =>
      rw [List.mem_cons, not_or] at hx
      rcases List.infix_cons_iff.1 h with h | h
      · exact absurd (List.cons_prefix_cons.1 h).1 hx.1
      · exact ih hx.2 h
  induction s with
  | nil => exact absurd (List.infix_nil.1 h) (List.cons_ne_nil _ _)
  | cons c s ih =>
    by_cases hm : B.mark m ∈ E.code c
    · obtain rfl := E.eq_mark hm
      rw [encode_cons, E.code_mark] at h
      rcases List.infix_cons_iff.1 h with h | h
      · refine List.infix_cons_iff.2 (.inl (E.word_prefix_iff.1 ?_))
        rw [encode_cons, E.code_mark]
        exact h
      · exact List.infix_cons_iff.2 (.inr (ih h))
    · exact List.infix_cons_iff.2 (.inr (ih (infix_of_not_mem hm h)))

theorem opensAt_iff {δ : Delimiter} {s : List α} : δ.OpensAt B (E.encode s) ↔ δ.OpensAt A s :=
  and_congr E.word_prefix_iff (imp_congr_right fun _ => not_congr E.word_prefix_iff)

theorem ne_mark_of_code_eq {c : α} {b : β} {bs : List β} (hc : E.code c = b :: bs) :
    ∀ b' ∈ bs, ∀ m, b' ≠ B.mark m := by
  intro b' hb m hm
  subst hm
  obtain rfl : c = A.mark m := E.eq_mark (by rw [hc]; exact List.mem_cons_of_mem _ hb)
  rw [E.code_mark] at hc
  obtain ⟨-, rfl⟩ := List.cons.inj hc
  cases hb

/-! ## Items -/

theorem stringBody {q : Mark} {closed : Bool} {s : List α}
    (h : StringBody A (A.mark q) closed s) : StringBody B (B.mark q) closed (E.encode s) := by
  induction h with
  | nil => exact .nil
  | plain hquote hescape _ ih =>
    refine .append (fun b hb => ⟨?_, ?_⟩) ih
    · intro hmark
      exact hquote (E.eq_mark (hmark ▸ hb))
    · intro hmark
      exact hescape (E.eq_mark (hmark ▸ hb))
  | @escaped c s _ ih =>
    obtain ⟨b, bs, hb⟩ := List.exists_cons_of_ne_nil (E.code_ne_nil c)
    rw [encode_cons, encode_cons, E.code_mark, hb]
    exact .escaped (.append (fun b' hb' => ⟨E.ne_mark_of_code_eq hb b' hb' _,
      E.ne_mark_of_code_eq hb b' hb' _⟩) ih)
  | last hclosed =>
    rw [encode_cons, E.code_mark]
    exact .last hclosed

theorem holds {δ : Delimiter} {closed : Bool} {body : List α} (h : δ.Holds A closed body) :
    δ.Holds B closed (E.encode body) := by
  cases δ with
  | slashes | hash => exact mt E.mark_mem_iff.1 h
  | block => exact mt E.infix_of_word_infix h
  | single | double => exact E.stringBody h

theorem encode_ending (δ : Delimiter) (closed : Bool) :
    E.encode (δ.ending A closed) = δ.ending B closed := by
  cases closed
  · rfl
  · exact E.encode_word _

theorem endsBefore {δ : Delimiter} {closed : Bool} {rest : List α} (h : δ.EndsBefore A closed rest) :
    δ.EndsBefore B closed (E.encode rest) := by
  cases closed with
  | false => rw [show rest = [] from h]; rfl
  | true =>
    intro hδ
    obtain ⟨rest, rfl⟩ := List.head?_eq_some_iff.1 (h hδ)
    rw [encode_cons, E.code_mark]
    rfl

def items : Item α → List (Item β)
  | .code c => (E.code c).map .code
  | .enclosed δ body closed => [.enclosed δ (E.encode body) closed]

theorem encode_text (δ : Delimiter) (body : List α) (closed : Bool) :
    E.encode ((Item.enclosed δ body closed).text A) =
      (Item.enclosed δ (E.encode body) closed).text B := by
  simp only [Item.text, encode_append, encode_word, encode_ending]

theorem factors {s : List α} {l : List (Item α)} (h : Factors A s l) :
    Factors B (E.encode s) (l.flatMap E.items) := by
  induction h with
  | nil => exact .nil
  | @cons item rest l hfits _ ih =>
    rw [encode_append, List.flatMap_cons]
    cases item with
    | code c =>
      rw [Item.text, encode_singleton, items]
      by_cases hc : ∃ m, c = A.mark m
      · obtain ⟨m, rfl⟩ := hc
        rw [E.code_mark]
        have hcode : (Item.code (B.mark m)).Fits B (E.encode rest) := by
          intro δ hopens
          refine hfits δ (E.opensAt_iff.1 ?_)
          rw [encode_cons, E.code_mark]
          exact hopens
        exact .cons hcode ih
      · exact ih.append_of_ne_mark fun b hb m hm => hc ⟨m, E.eq_mark (hm ▸ hb)⟩
    | enclosed δ body closed =>
      obtain ⟨hopens, hbody, hrest⟩ := hfits
      rw [encode_text]
      refine .cons ⟨?_, E.holds hbody, E.endsBefore hrest⟩ ih
      rw [← encode_text, ← encode_append]
      exact E.opensAt_iff.2 hopens

theorem encode_flatMap_blank (s : List α) :
    E.encode (s.flatMap A.blank) = (E.encode s).flatMap B.blank := by
  induction s with
  | nil => rfl
  | cons c s ih =>
    rw [List.flatMap_cons, encode_append, encode_cons, List.flatMap_append, ih]
    exact congrArg (· ++ _) (E.code_blank c)

theorem encode_masked (item : Item α) :
    E.encode (item.masked A) = (E.items item).flatMap (Item.masked B) := by
  cases item with
  | code c =>
    show E.encode [c] = ((E.code c).map .code).flatMap (Item.masked B)
    rw [encode_singleton, List.flatMap_map]
    exact (List.flatMap_singleton' _).symm
  | enclosed δ body closed =>
    rw [items, List.flatMap_singleton, Item.masked, Item.masked]
    simp only [Delimiter.shown]
    split <;> simp only [encode_append, encode_word, encode_flatMap_blank, encode_ending]

theorem encode_flatMap_masked (l : List (Item α)) :
    E.encode (l.flatMap (Item.masked A)) = (l.flatMap E.items).flatMap (Item.masked B) := by
  induction l with
  | nil => rfl
  | cons item l ih =>
    rw [List.flatMap_cons, encode_append, encode_masked, ih, List.flatMap_cons, List.flatMap_append]

end Encoding

end Wiring
