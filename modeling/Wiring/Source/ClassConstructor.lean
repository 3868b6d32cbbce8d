import Wiring.Source.Masking
import Wiring.Text.Blank
import Wiring.Text.Word

/-!
# The constructor of a class

The class constructor is the first `function __construct` that stands one brace deep in the code
of a source and whose parenthesis is closed again. Comments, strings and the constructors of
anonymous classes in method bodies do not count.
-/

namespace Wiring

/-- The rest after `function __construct (`. -/
def afterConstructorName? (s : Text) : Option Text := do
  let s ← after? "function".toList s
  let s ← afterBlanks? s
  let s ← after? "__construct".toList s
  after? ['('] (s.dropWhile isBlank)

/-- How many braces are open after a text. -/
def openBraces (s : Text) : Int := s.count '{' - s.count '}'

/-- The text up to the parenthesis that closes the list it starts in, `depth` lists further in. -/
def insideParentheses? : (depth : Nat) → Text → Option Text
  | _, [] => none
  | depth, c :: s =>
    if c = ')' then
      match depth with
      | 0 => some []
      | depth + 1 => (insideParentheses? depth s).map (c :: ·)
    else (insideParentheses? (if c = '(' then depth + 1 else depth) s).map (c :: ·)

/-- A parameter list in masked code, with the code before it. -/
structure ParameterList where
  before : Text
  inside : Text
deriving DecidableEq, Repr

def ParameterList.span (p : ParameterList) : Span :=
  ⟨byteLength p.before, byteLength p.before + byteLength p.inside⟩

/-- The parameter list of a class constructor that starts between two parts of the code. -/
def parameterListAt? (before rest : Text) : Option ParameterList := do
  let list ← afterConstructorName? rest
  if isWordAt before.head? ∨ openBraces before ≠ 1 then none
  else (insideParentheses? 0 list).map fun inside =>
    ⟨before.reverse ++ rest.take (rest.length - list.length), inside⟩

/-- The parameter list of the class constructor, in masked code. -/
def parameterList? (code : Text) : Option ParameterList := leftmost parameterListAt? code

/-- Where the parameters of the class constructor stand. -/
def parameterSpan? (source : Text) : Option Span :=
  (parameterList? (mask source)).map ParameterList.span

def declaresConstructor (source : Text) : Bool := (parameterSpan? source).isSome

end Wiring
