import Wiring.Injection
import Wiring.Proofs.ClassConstructor
import Wiring.Proofs.Identifier

/-!
# Recognition and insertions

Whether a parameter list takes a dependency is a question about the pair of its type and its
variable: `isAmong_iff`. The pair is found after it is inserted, and other insertions are not
noticed.
-/

namespace Wiring

def Dependency.pair (d : Dependency) : Phrase :=
  ⟨.word d.type, [⟨true, .word ('$' :: d.name)⟩]⟩

theorem Dependency.standsAt_eq (d : Dependency) (before rest : Text) :
    d.standsAt before rest = (isBoundary before.head? rest.head? &&
      match d.pair.after? rest with
      | some r => isBoundary ('$' :: d.name).getLast? r.head?
      | none => false) := by
  have h : (after? d.type rest >>= afterBlanks? >>= after? ('$' :: d.name)) = d.pair.after? rest := by
    simp only [pair, Phrase.after?, afterLinks?, Link.after?, afterGap?, Token.after?,
      Option.bind_eq_bind, ite_true]
    cases after? d.type rest with
    | none => rfl
    | some s => simp
  rw [← h]
  exact rfl

theorem Dependency.isAmong_iff {d : Dependency} {l : Text} :
    d.isAmong l = true ↔ ∃ a b, l = a ++ b ∧ d.standsAt a.reverse b = true := by
  unfold isAmong
  constructor
  · intro h
    obtain ⟨u, hu⟩ := Option.isSome_iff_exists.1 h
    obtain ⟨a, b, hl, hs, -⟩ := leftmost_eq_some_iff.1 hu
    refine ⟨a, b, hl, ?_⟩
    by_contra hn
    simp [hn] at hs
  · intro hyp
    obtain ⟨a, b, rfl, hs⟩ := hyp
    exact leftmost_isSome (by simp [hs])

theorem Dependency.isAmong_insert {d : Dependency} {a w b : Text} (seam : d.pair.Seam a w b)
    (ha : isWordAt a.getLast? = false) (haw : isWordAt (a ++ w).getLast? = false) :
    d.isAmong (a ++ (w ++ b)) = d.isAmong (a ++ b) := by
  have hhead : ∀ x z z' : Text, x ≠ [] → (x ++ z).head? = (x ++ z').head? := fun x z z' hx => by
    obtain ⟨c, x, rfl⟩ := List.exists_cons_of_ne_nil hx; rfl
  suffices h : leftmost (fun p r => if d.standsAt p r then some () else none) (a ++ (w ++ b)) =
      (leftmost (fun p r => if d.standsAt p r then some () else none) (a ++ b)).map id by
    simp [isAmong, h]
  refine leftmost_insert seam (fun p r h => ?_) (fun p c y _ hy h h' => ?_)
    (fun p x c z _ hx _ _ h h' => ?_) (fun p x _ => ?_)
  · simp [standsAt_eq, h]
  · have hcy : c ++ y ≠ [] := by simp [hy]
    simp only [standsAt_eq, h, h', Option.map_id_fun, id_eq, hhead (c ++ y) (w ++ b) b hcy,
      hhead y (w ++ b) b hy]
  · simp only [standsAt_eq, h, h', Option.map_id_fun, id_eq, hhead x (w ++ b) b hx]
  · simp only [standsAt_eq, isBoundary, isWordAt_head?_insert ha haw, Option.map_id_fun, id_eq]

theorem Dependency.isTaken_eq_any (d : Dependency) (s : Text) :
    d.isTaken s = (parameterList? (mask s)).any (d.isAmong ·.inside) := by
  unfold isTaken
  cases parameterList? (mask s) <;> rfl

/-- An insertion into code is not noticed, if it is not in whatever part of the parameters it comes to
stand. -/
theorem Dependency.any_isAmong_insert_of_eq {d : Dependency} {a w b : Text}
    (hlist : parameterList? (a ++ (w ++ b)) = (parameterList? (a ++ b)).map (·.insert a.length w))
    (hpart : ∀ y z, y <:+ a → z <+: b → d.isAmong (y ++ (w ++ z)) = d.isAmong (y ++ z)) :
    (parameterList? (a ++ (w ++ b))).any (d.isAmong ·.inside) =
      (parameterList? (a ++ b)).any (d.isAmong ·.inside) := by
  rw [hlist]
  cases hp : parameterList? (a ++ b) with
  | none => rfl
  | some p =>
    simp only [Option.map_some, Option.any_some]
    by_cases hk : p.before.length ≤ a.length ∧ a.length ≤ p.before.length + p.inside.length
    · obtain ⟨y, z, hy, hz, hyz, hq⟩ := parameterList?_inside_insert hp hk.1 hk.2 w
      rw [hq, hyz]
      exact hpart y z hy hz
    · rw [ParameterList.insert_outside hk]

/-- An insertion into code that breaks no pair is not noticed. -/
theorem Dependency.any_isAmong_insert {d : Dependency} {a w b : Text}
    (hlist : parameterList? (a ++ (w ++ b)) = (parameterList? (a ++ b)).map (·.insert a.length w))
    (seam : ∀ y z, y <:+ a → z <+: b → d.pair.Seam y w z)
    (hword : ∀ y, y <:+ a → isWordAt y.getLast? = false ∧ isWordAt (y ++ w).getLast? = false) :
    (parameterList? (a ++ (w ++ b))).any (d.isAmong ·.inside) =
      (parameterList? (a ++ b)).any (d.isAmong ·.inside) :=
  any_isAmong_insert_of_eq hlist fun y z hy hz =>
    isAmong_insert (seam y z hy hz) (hword y hy).1 (hword y hy).2

theorem Dependency.IsNamed.isWordAt_head?_type {d : Dependency} (hd : d.IsNamed) (r : Text) :
    isWordAt (d.type ++ r).head? = true := by
  obtain ⟨ht, htw⟩ := isAsciiWord_of_isIdentifier hd.1
  obtain ⟨c, t, hct⟩ := List.exists_cons_of_ne_nil ht
  rw [hct]
  exact isWord_of_isAsciiWord (htw c (by simp [hct]))

theorem Dependency.IsNamed.isWordAt_getLast?_variable {d : Dependency} (hd : d.IsNamed) :
    isWordAt ('$' :: d.name).getLast? = true := by
  obtain ⟨hn, hnw⟩ := isAsciiWord_of_isIdentifier hd.2
  rw [List.getLast?_cons_of_ne_nil hn, List.getLast?_eq_some_getLast hn]
  exact isWord_of_isAsciiWord (hnw _ (List.getLast_mem hn))

theorem Dependency.isAmong_of_written {d : Dependency} (hd : d.IsNamed) {a r : Text}
    (ha : isWordAt a.getLast? = false) (hr : isWordAt r.head? = false) :
    d.isAmong (a ++ (d.type ++ (' ' :: '$' :: (d.name ++ r)))) = true := by
  have hafter : d.pair.after? (d.type ++ (' ' :: '$' :: (d.name ++ r))) = some r := by
    have h₁ : ∀ w s : Text, after? w (w ++ s) = some s := fun w s => after?_eq_some_iff.2 rfl
    have h₂ : afterBlanks? (' ' :: '$' :: (d.name ++ r)) = some ('$' :: (d.name ++ r)) := by
      simp [afterBlanks?, show isBlank ' ' = true by decide, show isBlank '$' = false by decide]
    have h₃ : after? ('$' :: d.name) ('$' :: (d.name ++ r)) = some r := h₁ ('$' :: d.name) r
    simp [pair, Phrase.after?, afterLinks?, Link.after?, afterGap?, Token.after?, h₁, h₂, h₃]
  refine isAmong_iff.2 ⟨a, _, rfl, ?_⟩
  rw [standsAt_eq, hafter, List.head?_reverse]
  simp only [isBoundary, ha, hd.isWordAt_head?_type, hd.isWordAt_getLast?_variable, hr]
  rfl

end Wiring
