import Wiring.Text.Blank

/-!
# Constructors with a trailing comma

A public constructor whose last parameter is followed by a comma and a line break can take another
parameter on a line of its own.
-/

namespace Wiring

/-- A constructor of this layout, cut at the comma and after the line break. -/
structure OpenConstructor where
  /-- From `public` to the last parameter. -/
  head : Text
  /-- The comma and the spaces and tabs after it. -/
  comma : Text
  lineBreak : Text
  /-- The closing parenthesis, indented, and the opening brace. -/
  closing : Text
  rest : Text
deriving DecidableEq, Repr

/-- The rest after `public function __construct (`. -/
def afterPublicConstructor? (s : Text) : Option Text := do
  let s ← after? "public".toList s
  let s ← afterBlanks? s
  let s ← after? "function".toList s
  let s ← afterBlanks? s
  let s ← after? "__construct".toList s
  after? ['('] (s.dropWhile isBlank)

/-- An indented closing parenthesis and an opening brace, and the rest. -/
def closing? (s : Text) : Option (Text × Text) := do
  let indent := s.takeWhile isIndent
  let afterParenthesis ← after? [')'] (s.dropWhile isIndent)
  let gap := afterParenthesis.takeWhile isBlank
  let rest ← after? ['{'] (afterParenthesis.dropWhile isBlank)
  return (indent ++ ')' :: gap ++ ['{'], rest)

/-- A comma, a line break and the closing of the list. -/
def openEnd? (s : Text) : Option OpenConstructor := do
  let s ← after? [','] s
  let (lineBreak, s') ← lineBreak? (s.dropWhile isIndent)
  let (closing, rest) ← closing? s'
  return ⟨[], ',' :: s.takeWhile isIndent, lineBreak, closing, rest⟩

/-- The first open end before the list is closed. -/
def openList? : Text → Option OpenConstructor
  | [] => none
  | c :: s =>
    match openEnd? (c :: s) with
    | some o => some o
    | none => if c = ')' then none else (openList? s).map fun o => { o with head := c :: o.head }

/-- A constructor with a trailing comma at the start of a text. -/
def openConstructor? (s : Text) : Option OpenConstructor := do
  let list ← afterPublicConstructor? s
  let o ← openList? list
  return { o with head := s.take (s.length - list.length) ++ o.head }

/-- The blanks at the start of the last line of a text. -/
def lastLineIndent (s : Text) : Text :=
  ((s.reverse.takeWhile (· ≠ '\n')).reverse).takeWhile isIndent

/-- The indentation of the last parameter, eight spaces when it shares the line of the name. -/
def OpenConstructor.indent (o : OpenConstructor) : Text :=
  if '\n' ∈ o.head then lastLineIndent o.head else List.replicate 8 ' '

/-- The constructor with one more parameter. A parenthesis at the start of its line is indented
like the parameters. -/
def OpenConstructor.append (o : OpenConstructor) (parameter : Text) : Text :=
  o.head ++ o.comma ++ o.lineBreak ++ o.indent ++ parameter ++ o.lineBreak ++
    (if o.closing.head? = some ')' then o.indent else []) ++ o.closing ++ o.rest

end Wiring
