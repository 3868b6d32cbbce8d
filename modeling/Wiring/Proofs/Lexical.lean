import Mathlib.Data.List.Infix
import Mathlib.Logic.Embedding.Basic

/-!
# Comments and strings

A source is a sequence of code letters, comments and strings, read from the left. The grammar is stated
over an alphabet, so that it serves for texts and for their bytes. Main statements: `exists_factors`,
`Factors.unique`.
-/

namespace Wiring

inductive Mark where
  | slash | star | hash | bracket | single | double | backslash | newline
deriving DecidableEq

/-- The marks among the letters of a text, and what a letter is blanked to. -/
structure Alphabet (α : Type) where
  mark : Mark ↪ α
  blank : α → List α

variable {α : Type} (A : Alphabet α)

def Alphabet.word (marks : List Mark) : List α := marks.map A.mark

/-! ## The grammar -/

inductive Delimiter where
  | slashes | hash | block | single | double
deriving DecidableEq

namespace Delimiter

def opening : Delimiter → List Mark
  | slashes => [.slash, .slash]
  | hash => [.hash]
  | block => [.slash, .star]
  | single => [.single]
  | double => [.double]

/-- The line feed after a line comment is code. -/
def closing : Delimiter → List Mark
  | slashes | hash => []
  | block => [.star, .slash]
  | single => [.single]
  | double => [.double]

def isString : Delimiter → Bool
  | single | double => true
  | _ => false

/-- Whether a text begins with a comment or a string. A hash before a bracket is code. -/
def OpensAt (δ : Delimiter) (s : List α) : Prop :=
  A.word δ.opening <+: s ∧ (δ = .hash → ¬ A.word [.hash, .bracket] <+: s)

end Delimiter

/-- Letters other than the quote and the backslash, and pairs of a backslash and any letter. A backslash
at the end of the text has nothing to escape. -/
inductive StringBody (quote : α) (closed : Bool) : List α → Prop
  | nil : StringBody quote closed []
  | plain {c : α} {s : List α} (hquote : c ≠ quote) (hescape : c ≠ A.mark .backslash) :
    StringBody quote closed s → StringBody quote closed (c :: s)
  | escaped {c : α} {s : List α} :
    StringBody quote closed s → StringBody quote closed (A.mark .backslash :: c :: s)
  | last : closed = false → StringBody quote closed [A.mark .backslash]

namespace Delimiter

def Holds (closed : Bool) (body : List α) : Delimiter → Prop
  | slashes | hash => A.mark .newline ∉ body
  | block => ¬ A.word [.star, .slash] <:+: body
  | single => StringBody A (A.mark .single) closed body
  | double => StringBody A (A.mark .double) closed body

def ending (closed : Bool) (δ : Delimiter) : List α := if closed then A.word δ.closing else []

/-- Strings keep their quotes. -/
def shown (delimiter : List α) (δ : Delimiter) : List α :=
  if δ.isString then delimiter else delimiter.flatMap A.blank

/-- Whether a text can come after a comment or a string: a line feed after a line comment, and nothing
after one that is not closed. -/
def EndsBefore (closed : Bool) (rest : List α) (δ : Delimiter) : Prop :=
  if closed then δ.closing = [] → rest.head? = some (A.mark .newline) else rest = []

end Delimiter

inductive Item (α : Type) where
  | code (c : α)
  | enclosed (δ : Delimiter) (body : List α) (closed : Bool)

namespace Item

def text : Item α → List α
  | code c => [c]
  | enclosed δ body closed => A.word δ.opening ++ (body ++ δ.ending A closed)

def masked : Item α → List α
  | code c => [c]
  | enclosed δ body closed => δ.shown A (A.word δ.opening) ++
    (body.flatMap A.blank ++ δ.shown A (δ.ending A closed))

def Fits (rest : List α) : Item α → Prop
  | code c => ∀ δ : Delimiter, ¬ δ.OpensAt A (c :: rest)
  | enclosed δ body closed => δ.OpensAt A ((enclosed δ body closed).text A ++ rest) ∧
    δ.Holds A closed body ∧ δ.EndsBefore A closed rest

end Item

inductive Factors : List α → List (Item α) → Prop
  | nil : Factors [] []
  | cons {item : Item α} {rest : List α} {items : List (Item α)} :
    item.Fits A rest → Factors rest items → Factors (item.text A ++ rest) (item :: items)

variable {A}

theorem Item.length_masked (hblank : ∀ c, (A.blank c).length = 1) (item : Item α) :
    (item.masked A).length = (item.text A).length := by
  have hlength : ∀ s : List α, (s.flatMap A.blank).length = s.length := by
    intro s
    rw [List.length_flatMap, List.map_congr_left fun c _ => hblank c]
    simp
  cases item with
  | code c => rfl
  | enclosed δ body closed =>
    rw [Item.masked, Item.text, Delimiter.shown, Delimiter.shown]
    split <;> simp only [List.length_append, hlength]

theorem Factors.eq_flatMap {s : List α} {items : List (Item α)} (h : Factors A s items) :
    s = items.flatMap (Item.text A) := by
  induction h with
  | nil => rfl
  | cons _ _ ih => rw [List.flatMap_cons, ← ih]

/-! ## One delimiter at a place -/

theorem Delimiter.OpensAt.eq {δ δ' : Delimiter} {s : List α} (h : δ.OpensAt A s)
    (h' : δ'.OpensAt A s) : δ = δ' := by
  obtain ⟨⟨r, rfl⟩, -⟩ := h
  obtain ⟨⟨r', hr⟩, -⟩ := h'
  cases δ <;> cases δ' <;> first | rfl | (simp [Alphabet.word, Delimiter.opening] at hr)

/-! ## One body after a delimiter -/

theorem eq_of_append_of_head {z : α} {x x' r r' : List α} (hx : z ∉ x) (hx' : z ∉ x')
    (hr : r ≠ [] → [z] <+: r) (hr' : r' ≠ [] → [z] <+: r') (h : x ++ r = x' ++ r') :
    x = x' ∧ r = r' := by
  have hno : ∀ {x v r : List α}, z ∉ x ++ v → (v ++ r ≠ [] → [z] <+: v ++ r) → v = [] := by
    intro x v r hz hvr
    cases v with
    | nil => rfl
    | cons c v =>
      obtain ⟨rfl, -⟩ := List.cons_prefix_cons.1 (hvr (List.cons_ne_nil _ _))
      exact absurd (by simp) hz
  rcases List.append_eq_append_iff.1 h with ⟨v, rfl, rfl⟩ | ⟨v, rfl, rfl⟩
  · obtain rfl := hno hx' hr
    simp
  · obtain rfl := hno hx hr'
    simp

theorem eq_of_append_of_pair {y z : α} (hyz : y ≠ z) {x x' r r' : List α} (hx : ¬ [y, z] <:+: x)
    (hx' : ¬ [y, z] <:+: x') (hr : r ≠ [] → [y, z] <+: r) (hr' : r' ≠ [] → [y, z] <+: r')
    (h : x ++ r = x' ++ r') : x = x' ∧ r = r' := by
  have hno : ∀ {x v r : List α}, ¬ [y, z] <:+: x ++ v → (v ++ r ≠ [] → [y, z] <+: v ++ r) →
      (r ≠ [] → [y, z] <+: r) → v = [] := by
    intro x v r hxv hvr hr
    match v, hvr with
    | [], _ => rfl
    | [c], hvr =>
      obtain ⟨rfl, hz⟩ := List.cons_prefix_cons.1 (hvr (List.cons_ne_nil _ _))
      obtain ⟨t, rfl⟩ := hz
      exact absurd (List.cons_prefix_cons.1 (hr (List.cons_ne_nil _ _))).1 hyz
    | c :: d :: v, hvr =>
      obtain ⟨rfl, hz⟩ := List.cons_prefix_cons.1 (hvr (List.cons_ne_nil _ _))
      obtain ⟨rfl, -⟩ := List.cons_prefix_cons.1 hz
      exact absurd ⟨x, v, by simp⟩ hxv
  rcases List.append_eq_append_iff.1 h with ⟨v, rfl, rfl⟩ | ⟨v, rfl, rfl⟩
  · obtain rfl := hno hx' hr hr'
    simp
  · obtain rfl := hno hx hr' hr
    simp

theorem StringBody.eq_of_append {quote : α} (hquote : quote ≠ A.mark .backslash) {closed closed' : Bool}
    {x x' r r' : List α} (hx : StringBody A quote closed x) (hx' : StringBody A quote closed' x')
    (hr : closed = false → r = []) (hr' : closed' = false → r' = [])
    (hhead : r ≠ [] → [quote] <+: r) (hhead' : r' ≠ [] → [quote] <+: r')
    (h : x ++ r = x' ++ r') : x = x' ∧ r = r' := by
  have eq_quote : ∀ {r s : List α} {c : α}, (r ≠ [] → [quote] <+: r) → r = c :: s → c = quote := by
    intro r s c hr h
    subst h
    exact (List.cons_prefix_cons.1 (hr (List.cons_ne_nil _ _))).1.symm
  induction hx generalizing x' with
  | nil =>
    cases hx' with
    | nil => exact ⟨rfl, h⟩
    | plain hc => exact absurd (eq_quote hhead h) hc
    | escaped => exact absurd (eq_quote hhead h) hquote.symm
    | last => exact absurd (eq_quote hhead h) hquote.symm
  | plain hc hescape hs ih =>
    cases hx' with
    | nil => exact absurd (eq_quote hhead' h.symm) hc
    | plain _ _ hs' =>
      obtain ⟨rfl, htail⟩ := List.cons.inj h
      obtain ⟨rfl, rfl⟩ := ih hs' htail
      exact ⟨rfl, rfl⟩
    | escaped => exact absurd (List.cons.inj h).1 hescape
    | last => exact absurd (List.cons.inj h).1 hescape
  | escaped hs ih =>
    cases hx' with
    | nil => exact absurd (eq_quote hhead' h.symm) hquote.symm
    | plain _ hescape => exact absurd (List.cons.inj h).1.symm hescape
    | escaped hs' =>
      obtain ⟨rfl, htail⟩ := List.cons.inj (List.cons.inj h).2
      obtain ⟨rfl, rfl⟩ := ih hs' htail
      exact ⟨rfl, rfl⟩
    | last hc => simp [hr' hc] at h
  | last hc =>
    cases hx' with
    | nil => exact absurd (eq_quote hhead' h.symm) hquote.symm
    | plain _ hescape => exact absurd (List.cons.inj h).1.symm hescape
    | escaped => simp [hr hc] at h
    | last => exact ⟨rfl, (List.cons.inj h).2⟩

namespace Delimiter

theorem EndsBefore.ending_eq_nil_iff {δ : Delimiter} {closed : Bool} {rest : List α}
    (h : δ.EndsBefore A closed rest) : δ.ending A closed ++ rest = [] ↔ closed = false := by
  cases closed with
  | false => simpa [EndsBefore, ending] using h
  | true =>
    suffices δ.ending A true ++ rest ≠ [] by simpa using this
    intro hnil
    obtain ⟨hclosing, rfl⟩ := List.append_eq_nil_iff.1 hnil
    have : δ.closing = [] := by simpa [ending, Alphabet.word] using hclosing
    simp [EndsBefore, this] at h

def stop : Delimiter → List Mark
  | slashes | hash => [.newline]
  | block => [.star, .slash]
  | single => [.single]
  | double => [.double]

theorem EndsBefore.stop_prefix {δ : Delimiter} {closed : Bool} {rest : List α}
    (h : δ.EndsBefore A closed rest) (hne : δ.ending A closed ++ rest ≠ []) :
    A.word δ.stop <+: δ.ending A closed ++ rest := by
  cases closed with
  | false => exact absurd (h.ending_eq_nil_iff.2 rfl) hne
  | true =>
    have hline : ∀ {s : List α}, s.head? = some (A.mark .newline) → A.word [.newline] <+: s := by
      intro s hs
      obtain ⟨t, rfl⟩ := List.head?_eq_some_iff.1 hs
      exact ⟨t, rfl⟩
    cases δ with
    | slashes | hash => exact hline (h rfl)
    | block | single | double => exact ⟨rest, rfl⟩

theorem body_unique (δ : Delimiter) {closed closed' : Bool} {body body' rest rest' : List α}
    (hbody : δ.Holds A closed body) (hbody' : δ.Holds A closed' body')
    (hrest : δ.EndsBefore A closed rest) (hrest' : δ.EndsBefore A closed' rest')
    (h : body ++ (δ.ending A closed ++ rest) = body' ++ (δ.ending A closed' ++ rest')) :
    body = body' ∧ closed = closed' ∧ rest = rest' := by
  obtain ⟨rfl, htail⟩ : body = body' ∧ δ.ending A closed ++ rest = δ.ending A closed' ++ rest' := by
    have hstop := hrest.stop_prefix
    have hstop' := hrest'.stop_prefix
    cases δ with
    | slashes | hash => exact eq_of_append_of_head hbody hbody' hstop hstop' h
    | block =>
      exact eq_of_append_of_pair (A.mark.injective.ne (by decide)) hbody hbody' hstop hstop' h
    | single | double =>
      exact StringBody.eq_of_append (A.mark.injective.ne (by decide)) hbody hbody'
        hrest.ending_eq_nil_iff.2 hrest'.ending_eq_nil_iff.2 hstop hstop' h
  -- nothing follows a body exactly when it is not closed
  have hclosed : closed = closed' := by
    have := hrest.ending_eq_nil_iff
    rw [htail, hrest'.ending_eq_nil_iff] at this
    simpa [eq_comm] using this
  subst hclosed
  exact ⟨rfl, rfl, List.append_cancel_left htail⟩

theorem exists_line_body {δ : Delimiter} (hδ : δ.closing = []) (s : List α) : ∃ body closed rest,
    s = body ++ (δ.ending A closed ++ rest) ∧ A.mark .newline ∉ body ∧ δ.EndsBefore A closed rest := by
  induction s with
  | nil => exact ⟨[], false, [], rfl, List.not_mem_nil, rfl⟩
  | cons c s ih =>
    by_cases hc : c = A.mark .newline
    · subst hc
      exact ⟨[], true, _ :: s, by simp [ending, hδ, Alphabet.word], List.not_mem_nil, fun _ => rfl⟩
    · obtain ⟨body, closed, rest, rfl, hbody, hrest⟩ := ih
      exact ⟨c :: body, closed, rest, rfl, by simp [hbody, Ne.symm hc], hrest⟩

theorem exists_block_body (s : List α) : ∃ body closed rest,
    s = body ++ (block.ending A closed ++ rest) ∧ block.Holds A closed body ∧
      block.EndsBefore A closed rest := by
  induction s with
  | nil => exact ⟨[], false, [], rfl, by simp [Holds, Alphabet.word], rfl⟩
  | cons c s ih =>
    by_cases hc : A.word [.star, .slash] <+: c :: s
    · obtain ⟨rest, hrest⟩ := hc
      exact ⟨[], true, rest, hrest.symm, by simp [Holds, Alphabet.word], nofun⟩
    · obtain ⟨body, closed, rest, rfl, hbody, hrest⟩ := ih
      refine ⟨c :: body, closed, rest, rfl, fun hinfix => ?_, hrest⟩
      rcases List.infix_cons_iff.1 hinfix with h | h
      · exact hc (h.trans ⟨_, rfl⟩)
      · exact hbody h

theorem exists_string_body {δ : Delimiter} {q : Mark} (hδ : δ.closing = [q]) : ∀ s : List α,
    ∃ body closed rest, s = body ++ (δ.ending A closed ++ rest) ∧
      StringBody A (A.mark q) closed body ∧ δ.EndsBefore A closed rest
  | [] => ⟨[], false, [], rfl, .nil, rfl⟩
  | c :: s => by
    by_cases hquote : c = A.mark q
    · subst hquote
      exact ⟨[], true, s, by simp [ending, hδ, Alphabet.word], .nil, by simp [EndsBefore, hδ]⟩
    by_cases hescape : c = A.mark .backslash
    · subst hescape
      match s with
      | [] => exact ⟨_, false, [], rfl, .last rfl, rfl⟩
      | d :: s =>
        obtain ⟨body, closed, rest, rfl, hbody, hrest⟩ := exists_string_body hδ s
        exact ⟨_, closed, rest, rfl, .escaped hbody, hrest⟩
    · obtain ⟨body, closed, rest, rfl, hbody, hrest⟩ := exists_string_body hδ s
      exact ⟨c :: body, closed, rest, rfl, .plain hquote hescape hbody, hrest⟩

theorem exists_body (δ : Delimiter) (s : List α) : ∃ body closed rest,
    s = body ++ (δ.ending A closed ++ rest) ∧ δ.Holds A closed body ∧ δ.EndsBefore A closed rest := by
  cases δ with
  | slashes | hash => exact exists_line_body rfl s
  | block => exact exists_block_body s
  | single | double => exact exists_string_body rfl s

end Delimiter

/-! ## The items of a text -/

theorem Item.text_ne_nil (item : Item α) : item.text A ≠ [] := by
  cases item with
  | code c => exact List.cons_ne_nil _ _
  | enclosed δ body closed => cases δ <;> exact List.cons_ne_nil _ _

theorem Item.eq_of_fits {item item' : Item α} {rest rest' : List α} (h : item.Fits A rest)
    (h' : item'.Fits A rest') (htext : item.text A ++ rest = item'.text A ++ rest') :
    item = item' ∧ rest = rest' := by
  cases item with
  | code c =>
    cases item' with
    | code c' =>
      obtain ⟨rfl, rfl⟩ := List.cons.inj htext
      exact ⟨rfl, rfl⟩
    | enclosed δ body closed => exact absurd (by rw [show c :: rest = _ from htext]; exact h'.1) (h δ)
  | enclosed δ body closed =>
    cases item' with
    | code c' => exact absurd (by rw [show c' :: rest' = _ from htext.symm]; exact h.1) (h' δ)
    | enclosed δ' body' closed' =>
      obtain rfl : δ = δ' := (htext ▸ h.1).eq h'.1
      simp only [Item.text, List.append_assoc, List.append_cancel_left_eq] at htext
      obtain ⟨rfl, rfl, rfl⟩ := δ.body_unique h.2.1 h'.2.1 h.2.2 h'.2.2 htext
      exact ⟨rfl, rfl⟩

theorem Item.exists_fits (c : α) (s : List α) :
    ∃ (item : Item α) (rest : List α), c :: s = item.text A ++ rest ∧ item.Fits A rest := by
  by_cases h : ∃ δ : Delimiter, δ.OpensAt A (c :: s)
  · obtain ⟨δ, hδ⟩ := h
    obtain ⟨t, ht⟩ := hδ.1
    obtain ⟨body, closed, rest, rfl, hbody, hrest⟩ := δ.exists_body (A := A) t
    have htext : c :: s = (enclosed δ body closed).text A ++ rest := by simp [← ht, Item.text]
    exact ⟨_, rest, htext, htext ▸ hδ, hbody, hrest⟩
  · exact ⟨.code c, s, rfl, not_exists.1 h⟩

theorem Factors.unique {s : List α} {items items' : List (Item α)} (h : Factors A s items)
    (h' : Factors A s items') : items' = items := by
  induction h generalizing items' with
  | nil =>
    generalize hs : ([] : List α) = s at h'
    cases h' with
    | nil => rfl
    | cons => exact absurd (List.append_eq_nil_iff.1 hs.symm).1 (Item.text_ne_nil _)
  | @cons item rest items hfits hrest ih =>
    generalize hs : item.text A ++ rest = s at h'
    cases h' with
    | nil => exact absurd (List.append_eq_nil_iff.1 hs).1 (Item.text_ne_nil _)
    | cons hfits' hrest' =>
      obtain ⟨rfl, rfl⟩ := Item.eq_of_fits hfits hfits' hs
      rw [ih hrest']

theorem exists_factors (s : List α) : ∃ items, Factors A s items := by
  induction hn : s.length using Nat.strong_induction_on generalizing s with
  | _ n ih =>
    cases s with
    | nil => exact ⟨[], .nil⟩
    | cons c s =>
      obtain ⟨item, rest, htext, hfits⟩ := Item.exists_fits (A := A) c s
      have hlt : rest.length < n := by
        have := List.length_pos_of_ne_nil (item.text_ne_nil (A := A))
        rw [← hn, htext, List.length_append]
        omega
      obtain ⟨items, hitems⟩ := ih _ hlt rest rfl
      exact ⟨item :: items, htext ▸ .cons hfits hitems⟩

end Wiring
