import Wiring.Text.Blank
import Wiring.Text.Word

/-!
# Class headers

The header of a controller class: `class NameController extends AbstractController`, an opening
brace and the end of its line.
-/

namespace Wiring

/-- A header, its line break and what follows it. -/
structure ClassHeader where
  header : Text
  lineBreak : Text
  rest : Text
deriving DecidableEq, Repr

/-- A name that ends in `Controller` and is longer than that. -/
def isControllerName (name : Text) : Bool :=
  "Controller".toList.isSuffixOf name && "Controller".toList.length < name.length

/-- The rest after a controller name. -/
def afterControllerName? (s : Text) : Option Text :=
  if isControllerName (s.takeWhile isWord) then some (s.dropWhile isWord) else none

/-- The rest after the opening brace. -/
def afterClassBrace? (s : Text) : Option Text := do
  let s ← after? "class".toList s
  let s ← afterBlanks? s
  let s ← afterControllerName? s
  let s ← afterBlanks? s
  let s ← after? "extends".toList s
  let s ← afterBlanks? s
  let s ← after? "AbstractController".toList s
  after? ['{'] (s.dropWhile isBlank)

/-- A class header at the start of a text. -/
def classHeader? (s : Text) : Option ClassHeader := do
  let body ← afterClassBrace? s
  let (lineBreak, rest) ← lineBreak? (body.dropWhile isIndent)
  return ⟨s.take (s.length - rest.length), lineBreak, rest⟩

end Wiring
