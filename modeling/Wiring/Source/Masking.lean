import Wiring.Text.Basic

/-!
# Masking

Comments and the contents of string literals are blanked: every byte of theirs but a line feed
becomes a space, so that offsets keep their meaning. A `#` before `[` opens an attribute and is
code. Main statement: `byteLength_mask`.
-/

namespace Wiring

/-- Where a character stands. The two-character delimiters of a block comment and an escaped
character of a string have a region of their own for their second character. -/
inductive Region where
  | code
  | lineComment
  | blockOpening
  | blockComment
  | blockClosing
  | string (quote : Char)
  | escaped (quote : Char)
deriving DecidableEq, Repr

/-- The region after a character, given the character that follows it. -/
def Region.step : Region → Char → Option Char → Region
  | .code, c, next =>
    if c = '/' ∧ next = some '/' then .lineComment
    else if c = '#' ∧ next ≠ some '[' then .lineComment
    else if c = '/' ∧ next = some '*' then .blockOpening
    else if c = '\'' ∨ c = '"' then .string c
    else .code
  | .lineComment, c, _ => if c = '\n' then .code else .lineComment
  | .blockOpening, _, _ => .blockComment
  | .blockComment, c, next => if c = '*' ∧ next = some '/' then .blockClosing else .blockComment
  | .blockClosing, _, _ => .code
  | .string quote, c, _ =>
    if c = quote then .code else if c = '\\' then .escaped quote else .string quote
  | .escaped quote, _, _ => .string quote

/-- Whether a character between two regions is code: quotes are, comment delimiters are not. -/
def Region.keeps : Region → Region → Bool
  | .code, .code => true
  | .code, .string _ => true
  | .string _, .code => true
  | _, _ => false

/-- A line feed, or as many spaces as the character has bytes. -/
def blanked (c : Char) : Text := if c = '\n' then ['\n'] else List.replicate c.utf8Size ' '

def maskFrom (region : Region) : Text → Text
  | [] => []
  | c :: s =>
    let next := region.step c s.head?
    (if region.keeps next then [c] else blanked c) ++ maskFrom next s

def mask (s : Text) : Text := maskFrom .code s

theorem byteLength_blanked (c : Char) : byteLength (blanked c) = c.utf8Size := by
  unfold blanked
  split
  · subst c; rfl
  · generalize c.utf8Size = n
    induction n with
    | zero => rfl
    | succ n ih =>
      rw [List.replicate_succ, byteLength_cons, ih, show ' '.utf8Size = 1 from rfl, Nat.add_comm]

theorem byteLength_maskFrom (region : Region) (s : Text) :
    byteLength (maskFrom region s) = byteLength s := by
  induction s generalizing region with
  | nil => rfl
  | cons c s ih =>
    simp only [maskFrom, byteLength_append, byteLength_cons, ih]
    split <;> simp [byteLength_blanked]

theorem byteLength_mask (s : Text) : byteLength (mask s) = byteLength s :=
  byteLength_maskFrom .code s

end Wiring
