import Mathlib.Data.List.TakeWhile
import Wiring.Proofs.Search
import Wiring.Source.ClassHeader

/-!
# Phrases

A phrase is a token and more tokens after blanks. The layouts that the library looks for begin with
phrases. `Phrase.after?_append` says how a phrase is read in a joined text: in its first part, or
through blanks across the seam. `leftmost_insert` says which insertions a search for a phrase does
not notice.
-/

namespace Wiring

inductive Token where
  | word (w : Text)
  | controllerName

def Token.after? : Token → Text → Option Text
  | .word w => Wiring.after? w
  | .controllerName => afterControllerName?

/-- A token after blanks, at least one if `spaced`. -/
structure Link where
  spaced : Bool
  token : Token

def afterGap? (spaced : Bool) (s : Text) : Option Text :=
  if spaced then afterBlanks? s else some (s.dropWhile isBlank)

def Link.after? (l : Link) (s : Text) : Option Text := (afterGap? l.spaced s).bind l.token.after?

def afterLinks? : List Link → Text → Option Text
  | [], s => some s
  | l :: ls, s => (l.after? s).bind (afterLinks? ls)

structure Phrase where
  first : Token
  links : List Link

def Phrase.after? (φ : Phrase) (s : Text) : Option Text := (φ.first.after? s).bind (afterLinks? φ.links)

/-! ## The last character of a text -/

theorem getLast?_dropWhile {p : Char → Bool} {x : Text} {e : Char} (hx : x.getLast? = some e)
    (hp : ∃ c ∈ x, p c = false) : (x.dropWhile p).getLast? = some e := by
  obtain ⟨c, hc, hpc⟩ := hp
  have hne : x.dropWhile p ≠ [] := fun h => by
    have := List.dropWhile_eq_nil_iff.1 h c hc
    simp [hpc] at this
  rw [← List.takeWhile_append_dropWhile (p := p) (l := x), List.getLast?_append,
    List.getLast?_eq_some_getLast hne] at hx
  rw [List.getLast?_eq_some_getLast hne]
  simpa using hx

theorem dropWhile_append_of_exists {p : Char → Bool} {x : Text} (hp : ∃ c ∈ x, p c = false)
    (r : Text) : (x ++ r).dropWhile p = x.dropWhile p ++ r := by
  rw [List.dropWhile_append, if_neg]
  obtain ⟨c, hc, hpc⟩ := hp
  intro h
  have := List.dropWhile_eq_nil_iff.1 (List.isEmpty_iff.1 h) c hc
  simp [hpc] at this

/-! ## Tokens and gaps across a seam -/

def Token.Excludes (e : Char) : Token → Prop
  | .word w => e ∉ w
  | .controllerName => isWord e = false

theorem after?_append_of_last {w x : Text} {e : Char} (hx : x.getLast? = some e) (he : e ∉ w) :
    (∀ r, after? w (x ++ r) = none) ∨
      ∃ y, y.getLast? = some e ∧ ∀ r, after? w (x ++ r) = some (y ++ r) := by
  induction w generalizing x with
  | nil => exact .inr ⟨x, hx, fun _ => rfl⟩
  | cons c w ih =>
    cases x with
    | nil => cases hx
    | cons d x =>
      by_cases hcd : c = d
      · have hne : x ≠ [] := by
          rintro rfl
          simp only [List.getLast?_singleton, Option.some.injEq] at hx
          exact he (by simp [hcd, hx])
        have hx' : x.getLast? = some e := by simpa [List.getLast?_cons_of_ne_nil hne] using hx
        simpa [after?, hcd] using ih hx' fun h => he (List.mem_cons_of_mem _ h)
      · exact .inl fun r => by simp [after?, hcd]

theorem Token.after?_append {t : Token} {x : Text} {e : Char} (hx : x.getLast? = some e)
    (he : t.Excludes e) :
    (∀ r, t.after? (x ++ r) = none) ∨
      ∃ y, y.getLast? = some e ∧ ∀ r, t.after? (x ++ r) = some (y ++ r) := by
  cases t with
  | word w => exact after?_append_of_last hx he
  | controllerName =>
    have hex : ∃ c ∈ x, isWord c = false := ⟨e, List.mem_of_getLast? hx, he⟩
    have ht : ∀ r : Text, (x ++ r).takeWhile isWord = x.takeWhile isWord := fun r => by
      rw [List.takeWhile_append, if_neg]
      intro h
      have := List.takeWhile_eq_self_iff.1 (List.Sublist.eq_of_length
        (List.takeWhile_sublist isWord) h)
      obtain ⟨c, hc, hcw⟩ := hex
      simp [this c hc] at hcw
    by_cases hn : isControllerName (x.takeWhile isWord)
    · refine .inr ⟨x.dropWhile isWord, getLast?_dropWhile hx hex, fun r => ?_⟩
      simp [after?, afterControllerName?, ht, hn, dropWhile_append_of_exists hex]
    · exact .inl fun r => by simp [after?, afterControllerName?, ht, hn]

theorem afterGap?_append (spaced : Bool) {x : Text} {e : Char} (hx : x.getLast? = some e) :
    (∀ r, afterGap? spaced (x ++ r) = none) ∨
      (∃ y, y.getLast? = some e ∧ ∀ r, afterGap? spaced (x ++ r) = some (y ++ r)) ∨
      isBlank e = true ∧ ∀ r, afterGap? spaced (x ++ r) = some (r.dropWhile isBlank) := by
  by_cases hs : spaced = true ∧ ∃ c x', x = c :: x' ∧ isBlank c = false
  · obtain ⟨rfl, c, x', rfl, hc⟩ := hs
    exact .inl fun r => by simp [afterGap?, afterBlanks?, hc]
  · have hgap : ∀ r, afterGap? spaced (x ++ r) = some ((x ++ r).dropWhile isBlank) := fun r => by
      unfold afterGap?
      split
      · rename_i hsp
        cases x with
        | nil => cases hx
        | cons c x =>
          have hc : isBlank c = true := by
            cases h : isBlank c with
            | true => rfl
            | false => exact absurd ⟨hsp, c, x, rfl, h⟩ hs
          simp [afterBlanks?, hc]
      · rfl
    by_cases hb : ∃ c ∈ x, isBlank c = false
    · exact .inr (.inl ⟨x.dropWhile isBlank, getLast?_dropWhile hx hb, fun r => by
        rw [hgap, dropWhile_append_of_exists hb]⟩)
    · simp only [not_exists, not_and, Bool.not_eq_false] at hb
      exact .inr (.inr ⟨hb e (List.mem_of_getLast? hx), fun r => by
        rw [hgap, List.dropWhile_append_of_pos hb]⟩)

/-! ## Phrases across a seam -/

def Phrase.Excludes (φ : Phrase) (e : Char) : Prop :=
  φ.first.Excludes e ∧ ∀ l ∈ φ.links, l.token.Excludes e

def Phrase.Stops (φ : Phrase) (r : Text) : Prop :=
  ∀ l ∈ φ.links, l.token.after? (r.dropWhile isBlank) = none

/-- Links are read in the first part of a joined text, or fail there, or go on with the second. -/
theorem afterLinks?_append {ls : List Link} {x : Text} {e : Char} (hx : x.getLast? = some e)
    (he : ∀ l ∈ ls, l.token.Excludes e) :
    (∀ r, afterLinks? ls (x ++ r) = none) ∨
      (∃ y, y.getLast? = some e ∧ ∀ r, afterLinks? ls (x ++ r) = some (y ++ r)) ∨
      isBlank e = true ∧ ∃ l ∈ ls, ∃ ls', ∀ r, afterLinks? ls (x ++ r) =
        (l.token.after? (r.dropWhile isBlank)).bind (afterLinks? ls') := by
  induction ls generalizing x with
  | nil => exact .inr (.inl ⟨x, hx, fun _ => rfl⟩)
  | cons l ls ih =>
    simp only [afterLinks?, Link.after?]
    rcases afterGap?_append l.spaced hx with h | ⟨y, hy, h⟩ | ⟨hb, h⟩
    · exact .inl fun r => by simp [h]
    · rcases Token.after?_append hy (he l (by simp)) with h' | ⟨z, hz, h'⟩
      · exact .inl fun r => by simp [h, h']
      · simp only [h, Option.bind_some, h']
        rcases ih hz (fun l' hl => he l' (by simp [hl])) with h'' | h'' | ⟨hb, l', hl', h''⟩
        · exact .inl h''
        · exact .inr (.inl h'')
        · exact .inr (.inr ⟨hb, l', by simp [hl'], h''⟩)
    · exact .inr (.inr ⟨hb, l, by simp, ls, fun r => by simp [h]⟩)

theorem Phrase.after?_append {φ : Phrase} {x : Text} {e : Char} (hx : x.getLast? = some e)
    (he : φ.Excludes e) :
    (∀ r, φ.after? (x ++ r) = none) ∨
      (∃ y, y.getLast? = some e ∧ ∀ r, φ.after? (x ++ r) = some (y ++ r)) ∨
      isBlank e = true ∧ ∃ l ∈ φ.links, ∃ ls', ∀ r, φ.after? (x ++ r) =
        (l.token.after? (r.dropWhile isBlank)).bind (afterLinks? ls') := by
  rcases Token.after?_append hx he.1 with h | ⟨y, hy, h⟩
  · exact .inl fun r => by simp [after?, h]
  · simpa [after?, h] using afterLinks?_append hy he.2

theorem Phrase.after?_append_of_stops {φ : Phrase} {x : Text} {e : Char} (hx : x.getLast? = some e)
    (he : φ.Excludes e) :
    (∀ r, (isBlank e = true → φ.Stops r) → φ.after? (x ++ r) = none) ∨
      ∃ y, y.getLast? = some e ∧ ∀ r, φ.after? (x ++ r) = some (y ++ r) := by
  rcases Phrase.after?_append hx he with h | h | ⟨hb, l, hl, ls', h⟩
  · exact .inl fun r _ => h r
  · exact .inr h
  · exact .inl fun r hr => by simp [h, hr hb l hl]

/-! ## What a phrase consumes -/

theorem Token.eq_append_of_after? {t : Token} {s r : Text} (h : t.after? s = some r) :
    ∃ c, s = c ++ r ∧ (c = [] → t = .word []) ∧ ∀ w, t = .word w → c = w := by
  cases t with
  | word w =>
    refine ⟨w, after?_eq_some_iff.1 h, fun hw => by rw [hw], fun w' hw => ?_⟩
    cases hw; rfl
  | controllerName =>
    simp only [after?, afterControllerName?, Option.ite_none_right_eq_some, Option.some.injEq] at h
    obtain ⟨hn, rfl⟩ := h
    refine ⟨s.takeWhile isWord, by simp, fun hc => ?_, fun w hw => by cases hw⟩
    rw [hc] at hn
    exact absurd hn (by decide)

theorem afterGap?_eq_append {spaced : Bool} {s r : Text} (h : afterGap? spaced s = some r) :
    ∃ c, s = c ++ r := by
  unfold afterGap? at h
  split at h
  · cases s with
    | nil => cases h
    | cons d s =>
      simp only [afterBlanks?, Option.ite_none_right_eq_some, Option.some.injEq] at h
      obtain ⟨-, rfl⟩ := h
      exact ⟨d :: s.takeWhile isBlank, by simp⟩
  · obtain rfl := Option.some.inj h
    exact ⟨s.takeWhile isBlank, by simp⟩

theorem afterLinks?_eq_append {ls : List Link} {s r : Text} (h : afterLinks? ls s = some r) :
    ∃ c, s = c ++ r ∧ ∀ l ∈ ls, ∀ w, l.token = .word w → ∀ x ∈ w, x ∈ c := by
  induction ls generalizing s with
  | nil => obtain rfl := Option.some.inj h; exact ⟨[], rfl, by simp⟩
  | cons l ls ih =>
    obtain ⟨s₂, hl, h₂⟩ := Option.bind_eq_some_iff.1 h
    obtain ⟨s₁, h₀, h₁⟩ := Option.bind_eq_some_iff.1 hl
    obtain ⟨c₀, rfl⟩ := afterGap?_eq_append h₀
    obtain ⟨c₁, rfl, -, hc₁⟩ := Token.eq_append_of_after? h₁
    obtain ⟨c₂, rfl, hc₂⟩ := ih h₂
    refine ⟨c₀ ++ c₁ ++ c₂, by simp, fun l' hl w hw x hx => ?_⟩
    rcases List.mem_cons.1 hl with rfl | hl
    · simp [hc₁ w hw, hx]
    · simp [hc₂ l' hl w hw x hx]

theorem Phrase.after?_eq_append {φ : Phrase} {s r : Text} (h : φ.after? s = some r) :
    ∃ c, s = c ++ r ∧ ∀ l ∈ φ.links, ∀ w, l.token = .word w → ∀ x ∈ w, x ∈ c := by
  obtain ⟨s₁, h₁, h₂⟩ := Option.bind_eq_some_iff.1 h
  obtain ⟨c₁, rfl, -⟩ := Token.eq_append_of_after? h₁
  obtain ⟨c₂, rfl, hc⟩ := afterLinks?_eq_append h₂
  exact ⟨c₁ ++ c₂, by simp, fun l hl w hw x hx => by simp [hc l hl w hw x hx]⟩

theorem Phrase.head?_of_after? {φ : Phrase} {d : Char} {u s r : Text} (hφ : φ.first = .word (d :: u))
    (h : φ.after? s = some r) : s.head? = some d := by
  obtain ⟨s₁, h₁, -⟩ := Option.bind_eq_some_iff.1 h
  rw [hφ] at h₁
  rw [after?_eq_some_iff.1 h₁]
  rfl

/-! ## Phrases that end in a mark -/

theorem afterGap?_eq_some_iff {spaced : Bool} {s r : Text} :
    afterGap? spaced s = some r ↔ ∃ g, s = g ++ r ∧ (∀ c ∈ g, isBlank c = true) ∧
      (spaced = true → g ≠ []) ∧ ∀ c ∈ r.head?, isBlank c = false := by
  have hhead : ∀ t : Text, ∀ c ∈ (t.dropWhile isBlank).head?, isBlank c = false := fun t c hc => by
    have := List.head?_dropWhile_not isBlank t
    rw [Option.mem_def.1 hc] at this
    simpa using this
  constructor
  · intro h
    have hr : r = s.dropWhile isBlank ∧ (spaced = true → s.takeWhile isBlank ≠ []) := by
      unfold afterGap? at h
      split at h
      · cases s with
        | nil => cases h
        | cons d s =>
          simp only [afterBlanks?, Option.ite_none_right_eq_some, Option.some.injEq] at h
          simp [h.1, ← h.2]
      · rename_i hs
        exact ⟨(Option.some.inj h).symm, fun hs' => absurd hs' hs⟩
    obtain ⟨rfl, hg⟩ := hr
    exact ⟨s.takeWhile isBlank, by simp, fun c hc => List.mem_takeWhile_imp hc, hg, hhead s⟩
  · intro h'
    obtain ⟨g, rfl, hg, hs, hr⟩ := h'
    have hdrop : r.dropWhile isBlank = r := by
      cases r with
      | nil => rfl
      | cons c r => exact List.dropWhile_cons_of_neg (by simp [hr c rfl])
    unfold afterGap?
    split
    · rename_i hsp
      cases g with
      | nil => exact absurd rfl (hs hsp)
      | cons d g =>
        rw [List.cons_append, afterBlanks?, if_pos (hg d (by simp)),
          List.dropWhile_append_of_pos fun c hc => hg c (by simp [hc]), hdrop]
    · rw [List.dropWhile_append_of_pos hg, hdrop]

/-- A gap ends before a text that starts with no blank. -/
theorem isBlank_head?_append {w : Text} {d : Char} (hd : w.head? = some d) (hblank : isBlank d = false)
    (u : Text) : ∀ c ∈ (w ++ u).head?, isBlank c = false := by
  intro c hc
  rw [List.head?_append, hd, Option.some_or, Option.mem_some_iff] at hc
  rwa [← hc]

theorem head?_append_cons (c : Text) (z : Char) (r r' : Text) :
    (c ++ z :: r).head? = (c ++ z :: r').head? := by cases c <;> rfl

theorem Token.after?_local {t : Token} {s c r : Text} {z : Char} (h : t.after? s = some (c ++ z :: r)) :
    ∃ c₀, (∀ x, t.Excludes x → x ∉ c₀) ∧ s = c₀ ++ (c ++ z :: r) ∧
      ∀ r', t.after? (c₀ ++ (c ++ z :: r')) = some (c ++ z :: r') := by
  cases t with
  | word w =>
    exact ⟨w, fun x hx => hx, after?_eq_some_iff.1 h, fun r' => after?_eq_some_iff.2 rfl⟩
  | controllerName =>
    simp only [after?, afterControllerName?, Option.ite_none_right_eq_some, Option.some.injEq] at h ⊢
    obtain ⟨hn, h⟩ := h
    have hword : ∀ x ∈ s.takeWhile isWord, isWord x = true := fun x hx => List.mem_takeWhile_imp hx
    have hhead : ∀ x ∈ (c ++ z :: r).head?, isWord x = false := fun x hx => by
      have := List.head?_dropWhile_not isWord s
      rw [h, Option.mem_def.1 hx] at this
      simpa using this
    refine ⟨s.takeWhile isWord, fun x hx hmem => ?_, by rw [← h, List.takeWhile_append_dropWhile],
      fun r' => ?_⟩
    · have hx : isWord x = false := hx
      simp [hword x hmem] at hx
    · rw [head?_append_cons c z r r'] at hhead
      obtain ⟨x, y, hxy⟩ := List.exists_cons_of_ne_nil (show c ++ z :: r' ≠ [] by simp)
      have hx : isWord x = false := hhead x (by simp [hxy])
      simp only [hxy, List.takeWhile_append_of_pos hword, List.dropWhile_append_of_pos hword,
        List.takeWhile_cons_of_neg (by simp [hx] : ¬ isWord x = true),
        List.dropWhile_cons_of_neg (by simp [hx] : ¬ isWord x = true), List.append_nil, hn, and_self]

theorem afterGap?_local {spaced : Bool} {s c r : Text} {z : Char}
    (h : afterGap? spaced s = some (c ++ z :: r)) :
    ∃ g, (∀ x, isBlank x = false → x ∉ g) ∧ s = g ++ (c ++ z :: r) ∧
      ∀ r', afterGap? spaced (g ++ (c ++ z :: r')) = some (c ++ z :: r') := by
  obtain ⟨g, rfl, hg, hs, hr⟩ := afterGap?_eq_some_iff.1 h
  refine ⟨g, fun x hx hmem => by simp [hg x hmem] at hx, rfl, fun r' => ?_⟩
  exact afterGap?_eq_some_iff.2 ⟨g, rfl, hg, hs, head?_append_cons c z r r' ▸ hr⟩

theorem afterLinks?_local {ls : List Link} {spaced : Bool} {z : Char} {s r : Text}
    (h : afterLinks? (ls ++ [⟨spaced, .word [z]⟩]) s = some r) :
    ∃ c, (∀ x, isBlank x = false → (∀ l ∈ ls, l.token.Excludes x) → x ∉ c) ∧ s = c ++ z :: r ∧
      ∀ r', afterLinks? (ls ++ [⟨spaced, .word [z]⟩]) (c ++ z :: r') = some r' := by
  induction ls generalizing s with
  | nil =>
    simp only [List.nil_append, afterLinks?, Link.after?, Token.after?,
      Option.bind_fun_some] at h ⊢
    obtain ⟨s₁, h₁, h₂⟩ := Option.bind_eq_some_iff.1 h
    obtain rfl := after?_eq_some_iff.1 h₂
    obtain ⟨g, hg, rfl, hg'⟩ := afterGap?_local (c := []) h₁
    exact ⟨g, fun x hx _ => hg x hx, rfl, fun r' => by
      simpa [after?] using congrArg (·.bind (Wiring.after? [z])) (hg' r')⟩
  | cons l ls ih =>
    simp only [List.cons_append, afterLinks?, Link.after?] at h ⊢
    obtain ⟨s₂, hl, h₃⟩ := Option.bind_eq_some_iff.1 h
    obtain ⟨s₁, h₁, h₂⟩ := Option.bind_eq_some_iff.1 hl
    obtain ⟨c₂, hc₂, rfl, h₃'⟩ := ih h₃
    obtain ⟨c₁, hc₁, rfl, h₂'⟩ := Token.after?_local h₂
    rw [← List.append_assoc] at h₁
    obtain ⟨g, hg, rfl, h₁'⟩ := afterGap?_local h₁
    refine ⟨g ++ c₁ ++ c₂, fun x hx hl => ?_, by simp, fun r' => ?_⟩
    · have := hc₂ x hx fun l' hl' => hl l' (by simp [hl'])
      simp [hg x hx, hc₁ x (hl l (by simp)), this]
    · have := h₁' r'
      simp only [List.append_assoc] at this ⊢
      rw [this, Option.bind_some, h₂', Option.bind_some, h₃']

structure Phrase.EndsIn (φ : Phrase) (z : Char) : Prop where
  first : φ.first.Excludes z
  links : ∃ ls spaced, φ.links = ls ++ [⟨spaced, .word [z]⟩] ∧ ∀ l ∈ ls, l.token.Excludes z
  notBlank : isBlank z = false

/-- Such a phrase is read up to the first such character, whatever follows it. -/
theorem Phrase.EndsIn.after?_local {φ : Phrase} {z : Char} (hφ : φ.EndsIn z) {s r : Text}
    (h : φ.after? s = some r) :
    ∃ c, z ∉ c ∧ (∀ x, isBlank x = false → φ.Excludes x → x ∉ c) ∧ s = c ++ z :: r ∧
      ∀ r', φ.after? (c ++ z :: r') = some r' := by
  obtain ⟨ls, spaced, hls, hex⟩ := hφ.links
  unfold Phrase.after? at h ⊢
  rw [hls] at h ⊢
  obtain ⟨s₁, h₁, h₂⟩ := Option.bind_eq_some_iff.1 h
  obtain ⟨c₂, hc₂, rfl, h₂'⟩ := afterLinks?_local h₂
  obtain ⟨c₁, hc₁, rfl, h₁'⟩ := Token.after?_local h₁
  refine ⟨c₁ ++ c₂, ?_, fun x hx hφx => ?_, by simp, fun r' => ?_⟩
  · simp [hc₁ z hφ.first, hc₂ z hφ.notBlank hex]
  · have := hc₂ x hx fun l hl => hφx.2 l (by simp [hls, hl])
    simp [hc₁ x hφx.1, this]
  · rw [List.append_assoc, h₁', Option.bind_some, h₂']

/-! ## Insertions -/

/-- A place between `a` and `b` at which the insertion of `w` breaks no phrase and adds none. -/
structure Phrase.Seam (φ : Phrase) (a w b : Text) : Prop where
  excludes : ∀ e ∈ a.getLast?, φ.Excludes e
  joins : ∀ e ∈ a.getLast?, isBlank e = true →
    (w ++ b).dropWhile isBlank = b.dropWhile isBlank ∨ φ.Stops (w ++ b) ∧ φ.Stops b
  middle : ∀ x, x ≠ [] → x <:+ w → φ.after? (x ++ b) = none
  filled : ∀ l ∈ φ.links, l.token ≠ .word []

/-- Blanks can be inserted after any character that is foreign to the phrase. -/
theorem Phrase.Seam.of_blank {φ : Phrase} {a w b : Text} (filled : ∀ l ∈ φ.links, l.token ≠ .word [])
    (ha : ∀ e ∈ a.getLast?, φ.Excludes e) (hw : ∀ c ∈ w, isBlank c = true)
    (hf : ∃ d u, φ.first = .word (d :: u) ∧ isBlank d = false) : φ.Seam a w b where
  excludes := ha
  joins _ _ _ := .inl (List.dropWhile_append_of_pos hw)
  middle x hx hxw := by
    obtain ⟨d, u, hd, hdb⟩ := hf
    obtain ⟨c, x, rfl⟩ := List.exists_cons_of_ne_nil hx
    have hc : d ≠ c := by
      rintro rfl
      simp [hw d (hxw.subset (by simp))] at hdb
    simp [after?, hd, Token.after?, Wiring.after?, hc]
  filled := filled

/-- So can a text that lacks a character of the phrase, where the phrase does not go on. -/
theorem Phrase.Seam.of_absent {φ : Phrase} {a w b : Text} (filled : ∀ l ∈ φ.links, l.token ≠ .word [])
    (ha : ∀ e ∈ a.getLast?, φ.Excludes e ∧ (isBlank e = true → φ.Stops (w ++ b) ∧ φ.Stops b))
    (hw : ∀ e ∈ w.getLast?, φ.Excludes e ∧ (isBlank e = true → φ.Stops b))
    (habsent : ∃ l ∈ φ.links, ∃ u, l.token = .word u ∧ ∃ x ∈ u, x ∉ w) : φ.Seam a w b where
  excludes e he := (ha e he).1
  joins e he hb := .inr ((ha e he).2 hb)
  middle x hx hxw := by
    obtain ⟨e, hxe⟩ : ∃ e, x.getLast? = some e := ⟨_, List.getLast?_eq_some_getLast hx⟩
    obtain ⟨v, rfl⟩ := hxw
    obtain ⟨hφ, hs⟩ := hw e (by simp [List.getLast?_append, hxe])
    rcases Phrase.after?_append_of_stops hxe hφ with h | ⟨y, -, h⟩
    · exact h b hs
    · obtain ⟨c, hc, hmem⟩ := Phrase.after?_eq_append (h [])
      obtain ⟨l, hl, u, hu, z, hz, hzw⟩ := habsent
      rw [List.append_nil, List.append_nil] at hc
      exact absurd (hmem l hl u hu z hz) fun h => hzw (by simp [hc, h])
  filled := filled

theorem isWordAt_head?_insert {a w : Text} (ha : isWordAt a.getLast? = false)
    (haw : isWordAt (a ++ w).getLast? = false) (p : Text) :
    isWordAt (p.reverse ++ (a ++ w).reverse).head? = isWordAt (p.reverse ++ a.reverse).head? := by
  rw [← List.reverse_append, ← List.reverse_append, List.head?_reverse, List.head?_reverse,
    @List.getLast?_append _ (a ++ w), @List.getLast?_append _ a p]
  cases p.getLast? with
  | some e => rfl
  | none => simpa [ha] using haw

section
variable {φ : Phrase} {a w b : Text} (seam : φ.Seam a w b)
include seam

/-- A phrase that begins before the seam ends before it, or after it, with and without `w`. -/
theorem Phrase.Seam.after?_cases {p x : Text} (ha : a = p ++ x) (hx : x ≠ []) :
    (φ.after? (x ++ b) = none ∧ φ.after? (x ++ (w ++ b)) = none) ∨
      (∃ c y, x = c ++ y ∧ y ≠ [] ∧ φ.after? (x ++ b) = some (y ++ b) ∧
        φ.after? (x ++ (w ++ b)) = some (y ++ (w ++ b))) ∨
      ∃ c z, c ≠ [] ∧ b = c ++ z ∧ φ.after? (x ++ b) = some z ∧
        φ.after? (x ++ (w ++ b)) = some z := by
  obtain ⟨e, hxe⟩ : ∃ e, x.getLast? = some e := ⟨_, List.getLast?_eq_some_getLast hx⟩
  have hae : e ∈ a.getLast? := by simp [ha, List.getLast?_append, hxe]
  rcases Phrase.after?_append hxe (seam.excludes e hae) with h | ⟨y, hy, h⟩ | ⟨hb, l, hl, ls', h⟩
  · exact .inl ⟨h b, h _⟩
  · obtain ⟨c, hc, -⟩ := Phrase.after?_eq_append (h [])
    have hne : y ≠ [] := fun h0 => by simp [h0] at hy
    exact .inr (.inl ⟨c, y, by simpa using hc, hne, h b, h _⟩)
  · rcases seam.joins e hae hb with hj | ⟨hw, hs⟩
    · have hwb : φ.after? (x ++ (w ++ b)) = φ.after? (x ++ b) := by rw [h, h, hj]
      rw [hwb]
      cases hz : φ.after? (x ++ b) with
      | none => exact .inl ⟨rfl, rfl⟩
      | some z =>
        rw [h] at hz
        obtain ⟨z₁, h₁, h₂⟩ := Option.bind_eq_some_iff.1 hz
        obtain ⟨c₁, hc₁, hne, -⟩ := Token.eq_append_of_after? h₁
        obtain ⟨c₂, rfl, -⟩ := afterLinks?_eq_append h₂
        refine .inr (.inr ⟨b.takeWhile isBlank ++ c₁ ++ c₂, z, ?_, ?_, rfl, rfl⟩)
        · intro h0
          exact seam.filled l hl (hne (by simp_all))
        · rw [List.append_assoc, List.append_assoc, ← hc₁, List.takeWhile_append_dropWhile]
    · exact .inl ⟨by simp [h, hs l hl], by simp [h, hw l hl]⟩

/-- A search that begins at a phrase finds the same, up to `f`, after an insertion. -/
theorem leftmost_insert {α : Type} {read : Text → Text → Option α} {f : α → α}
    (hread : ∀ p r, φ.after? r = none → read p r = none)
    (hbefore : ∀ p c y, a = p ++ c ++ y → y ≠ [] → φ.after? (c ++ y ++ b) = some (y ++ b) →
      φ.after? (c ++ y ++ (w ++ b)) = some (y ++ (w ++ b)) →
      read p.reverse (c ++ y ++ (w ++ b)) = (read p.reverse (c ++ y ++ b)).map f)
    (hacross : ∀ p x c z, a = p ++ x → x ≠ [] → c ≠ [] → b = c ++ z → φ.after? (x ++ b) = some z →
      φ.after? (x ++ (w ++ b)) = some z →
      read p.reverse (x ++ (w ++ b)) = (read p.reverse (x ++ b)).map f)
    (hafter : ∀ p x, b = p ++ x →
      read (p.reverse ++ (a ++ w).reverse) x = (read (p.reverse ++ a.reverse) x).map f) :
    leftmost read (a ++ (w ++ b)) = (leftmost read (a ++ b)).map f := by
  have ha : leftmostIn read [] a (w ++ b) = (leftmostIn read [] a b).map f := by
    apply leftmostIn_map
    intro p x hpx hx
    simp only [List.append_nil]
    rcases seam.after?_cases hpx hx with ⟨h, h'⟩ | ⟨c, y, rfl, hy, h, h'⟩ | ⟨c, z, hc, hb, h, h'⟩
    · rw [hread _ _ h, hread _ _ h']; rfl
    · exact hbefore p c y (by simp [hpx]) hy h h'
    · exact hacross p x c z hpx hx hc hb h h'
  have hw : leftmostIn read a.reverse w b = none :=
    leftmostIn_eq_none_iff.2 fun p x hpx hx => hread _ _ (seam.middle x hx ⟨p, hpx.symm⟩)
  rw [leftmost_append, leftmost_append, ha, leftmostFrom_append, hw, Option.none_or, Option.map_or,
    ← List.reverse_append]
  congr 1
  exact leftmostFrom_map hafter

/-- What follows a phrase somewhere in a text has a property after an insertion as before it. -/
theorem Phrase.Seam.exists_after?_iff {good : Text → Prop}
    (hgood : ∀ y, y ≠ [] → y <:+ a → (good (y ++ (w ++ b)) ↔ good (y ++ b))) :
    (∃ s r, s <:+ a ++ (w ++ b) ∧ φ.after? s = some r ∧ good r) ↔
      ∃ s r, s <:+ a ++ b ∧ φ.after? s = some r ∧ good r := by
  constructor
  · intro hyp
    obtain ⟨s, r, hs, hr, hg⟩ := hyp
    rcases suffix_append_cases hs with hs | ⟨x, hx, hxa, rfl⟩
    · rcases suffix_append_cases hs with hs | ⟨x, hx, hxw, rfl⟩
      · exact ⟨s, r, hs.trans (List.suffix_append _ _), hr, hg⟩
      · simp [seam.middle x hx hxw] at hr
    · have hxb : x ++ b <:+ a ++ b := List.suffix_append_self_iff.2 hxa
      obtain ⟨p, hp⟩ := hxa
      rcases seam.after?_cases hp.symm hx with ⟨-, h⟩ | ⟨c, y, rfl, hy, h, h'⟩ | ⟨c, z, -, -, h, h'⟩
      · simp [h] at hr
      · obtain rfl := Option.some.inj (h'.symm.trans hr)
        exact ⟨_, _, hxb, h, (hgood y hy ⟨p ++ c, by simp [← hp]⟩).1 hg⟩
      · obtain rfl := Option.some.inj (h'.symm.trans hr)
        exact ⟨_, _, hxb, h, hg⟩
  · intro hyp
    obtain ⟨s, r, hs, hr, hg⟩ := hyp
    rcases suffix_append_cases hs with hs | ⟨x, hx, hxa, rfl⟩
    · exact ⟨s, r, (hs.trans (List.suffix_append _ _)).trans (List.suffix_append _ _), hr, hg⟩
    · have hxb : x ++ (w ++ b) <:+ a ++ (w ++ b) := List.suffix_append_self_iff.2 hxa
      obtain ⟨p, hp⟩ := hxa
      rcases seam.after?_cases hp.symm hx with ⟨h, -⟩ | ⟨c, y, rfl, hy, h, h'⟩ | ⟨c, z, -, -, h, h'⟩
      · simp [h] at hr
      · obtain rfl := Option.some.inj (h.symm.trans hr)
        exact ⟨_, _, hxb, h', (hgood y hy ⟨p ++ c, by simp [← hp]⟩).2 hg⟩
      · obtain rfl := Option.some.inj (h.symm.trans hr)
        exact ⟨_, _, hxb, h', hg⟩

end

end Wiring
