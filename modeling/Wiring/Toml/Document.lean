import Wiring.Toml.Scalar
import Wiring.Toml.Tree

/-!
# Documents

The spelling of arrays, inline tables and lines. `parseDocument` reads a whole text.
-/

namespace Wiring.Toml

open Reader

/-- Arrays and inline tables may be nested so deep. -/
def nestingLimit : Nat := 79

/-- A dotted key has at most so many parts. -/
def keyLimit : Nat := 79

def comment : Reader Unit := do
  char '#'
  let _ ← run isPlain

/-- Blanks, line breaks and comments between the values of an array. -/
def arrayGap : Reader Unit := do
  let _ ← many (one isSpace *> pure () <|> lineBreak <|> (do comment; lineBreak))

def isBareKey (c : Char) : Bool := c.isAlphanum || c == '_' || c == '-'

def bareKey : Reader Text := do
  let key ← run isBareKey
  if key = [] then failure else return key

def simpleKey : Reader Text := basicString <|> literalString <|> bareKey

/-- The parts of a dotted key. -/
def key : Reader (List Text) := do
  let path ← separated (do let _ ← spaces; let k ← simpleKey; let _ ← spaces; return k) (char '.')
  if keyLimit < path.length then failure else return path

/-- A key, an equals sign and a value. -/
def keyValue (value : Reader Value) : Reader (List Text × Value) := do
  let path ← key
  char '='
  let _ ← spaces
  return (path, ← value)

def array (value : Reader Value) : Reader Value := do
  char '['
  let item : Reader Value := do arrayGap; let v ← value; arrayGap; return v
  let values ← optional (separated item (char ','))
  if values.isSome then
    let _ ← optional (char ',')
  arrayGap
  char ']'
  return .array (values.getD [])

def inlineTable (value : Reader Value) : Reader Value := do
  char '{'
  let entry : Reader (List Text × Value) := do
    let e ← keyValue value
    let _ ← spaces
    return e
  let entries ← optional (separated entry (char ','))
  let _ ← spaces
  char '}'
  match tableOfEntries (entries.getD []) with
  | some table => return .table table
  | none => failure

/-- A value with as many arrays and inline tables inside each other. -/
def valueWithin : (depth : Nat) → Reader Value
  | 0 => scalar
  | depth + 1 => array (valueWithin depth) <|> inlineTable (valueWithin depth) <|> scalar

def value : Reader Value := valueWithin nestingLimit

def lineEnd : Reader Unit := lineBreak <|> atEnd

/-- What may follow a statement on its line. -/
def trailing : Reader Unit := do
  let _ ← spaces
  let _ ← optional comment
  lineEnd

def header : Reader Statement :=
  (do
    word ['[', '[']
    let path ← key
    word [']', ']']
    trailing
    return .arrayHeader path) <|>
  do
    char '['
    let path ← key
    char ']'
    trailing
    return .header path

def entry : Reader Statement := do
  let (path, v) ← keyValue value
  trailing
  return .entry path v

/-- A line, or what is left of the last one. -/
def line : Reader (Option Statement) :=
  (some <$> (header <|> entry) <|>
    (do comment; lineEnd; return none) <|> (do lineBreak; return none)) <* spaces

def document : Reader (List Statement) := do
  let _ ← optional (char (Char.ofNat 0xFEFF))
  let _ ← spaces
  let lines ← many line
  atEnd
  return lines.filterMap id

/-- The table that a text spells, if it is well formed. -/
def parseDocument (s : Text) : Option Table := do
  let (statements, _) ← document s
  tableOfStatements statements

end Wiring.Toml
