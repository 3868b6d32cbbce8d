import Wiring.Text.Blank

/-!
# Top-level statements

A statement is a keyword at the start of a line, white space, and a name up to a semicolon on the
same line. `statements` finds all of a kind; `joinStatements_statements` says that nothing of the
text is lost.
-/

namespace Wiring

/-- A statement with the text between it and the one before. -/
structure Statement where
  before : Text
  text : Text
deriving DecidableEq, Repr

def endsName (c : Char) : Bool := c == ';' || c == '\r' || c == '\n'

/-- Blanks after a keyword and the name after them. Of two or more blanks the last may stand for
the name when it ends no line. -/
def isNamed (blanks name : Text) : Bool :=
  blanks ≠ [] && (name ≠ [] || (1 < blanks.length && !(blanks.getLast?.any endsName)))

/-- A statement at the start of a text. -/
def statementAt? (keyword s : Text) : Option (Text × Text) := do
  let s ← after? keyword s
  let blanks := s.takeWhile isBlank
  let named := s.dropWhile isBlank
  let name := named.takeWhile (!endsName ·)
  let rest ← after? [';'] (named.dropWhile (!endsName ·))
  if isNamed blanks name then some (keyword ++ blanks ++ name ++ [';'], rest) else none

/-- The first statement of a text and the rest. `atStart` says whether the text starts a line. -/
def nextStatement? (keyword : Text) : (atStart : Bool) → Text → Option (Statement × Text)
  | _, [] => none
  | atStart, c :: s =>
    match if atStart then statementAt? keyword (c :: s) else none with
    | some (text, rest) => some (⟨[], text⟩, rest)
    | none =>
      (nextStatement? keyword (c == '\n') s).map fun (g, rest) =>
        ({ g with before := c :: g.before }, rest)

/-- The statements of a text, and the text after the last. -/
def statementsFrom (keyword : Text) (atStart : Bool) (s : Text) : List Statement × Text :=
  match nextStatement? keyword atStart s with
  | none => ([], s)
  | some (g, rest) =>
    if rest.length < s.length then
      let (gs, last) := statementsFrom keyword false rest
      (g :: gs, last)
    else ([g], rest)
termination_by s.length

def statements (keyword s : Text) : List Statement × Text := statementsFrom keyword true s

def joinStatements (gs : List Statement) (last : Text) : Text :=
  gs.flatMap (fun g => g.before ++ g.text) ++ last

theorem after?_append {keyword s rest : Text} (h : after? keyword s = some rest) :
    keyword ++ rest = s := (after?_eq_some_iff.1 h).symm

theorem statementAt?_append {keyword s text rest : Text}
    (h : statementAt? keyword s = some (text, rest)) : text ++ rest = s := by
  simp only [statementAt?, Option.bind_eq_bind, Option.bind_eq_some_iff,
    Option.ite_none_right_eq_some, Option.some.injEq, Prod.mk.injEq] at h
  obtain ⟨s', hs', rest', hrest, -, rfl, rfl⟩ := h
  have h1 := after?_append hrest
  simp only [List.append_assoc, h1, List.takeWhile_append_dropWhile]
  exact after?_append hs'

theorem nextStatement?_append {keyword : Text} {atStart : Bool} {s : Text} {g : Statement}
    {rest : Text} (h : nextStatement? keyword atStart s = some (g, rest)) :
    g.before ++ g.text ++ rest = s := by
  induction s generalizing atStart g with
  | nil => simp [nextStatement?] at h
  | cons c s ih =>
    rw [nextStatement?] at h
    split at h
    · rename_i text rest' hs
      cases h
      split at hs
      · simpa using statementAt?_append hs
      · cases hs
    · obtain ⟨⟨g', rest'⟩, hg, h⟩ := Option.map_eq_some_iff.1 h
      cases h
      simpa using ih hg

theorem joinStatements_statements (keyword s : Text) :
    joinStatements (statements keyword s).1 (statements keyword s).2 = s := by
  suffices ∀ atStart, joinStatements (statementsFrom keyword atStart s).1
      (statementsFrom keyword atStart s).2 = s from this true
  intro atStart
  fun_induction statementsFrom keyword atStart s with
  | case1 => simp [joinStatements]
  | case2 atStart s g rest hg hlt gs last hgs ih =>
    have := nextStatement?_append hg
    simp only [hgs, joinStatements] at ih
    simp [joinStatements, ih, ← this]
  | case3 atStart s g rest hg =>
    have := nextStatement?_append hg
    simpa [joinStatements] using this

end Wiring
