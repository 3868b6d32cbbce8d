import Wiring.Text.Basic

/-!
# JSON texts

Values laid out with one entry on a line and two spaces for each level.
-/

namespace Wiring

inductive JsonValue where
  | null
  | boolean (b : Bool)
  | number (n : Nat)
  | string (s : Text)
  | array (values : List JsonValue)
  | object (entries : List (Text × JsonValue))

namespace JsonValue

def fourDigits (n : Nat) : Text :=
  let digits := Nat.toDigits 16 n
  List.replicate (4 - digits.length) '0' ++ digits

/-- Quotes, backslashes and the controls below space are escaped. -/
def escapeCharacter (c : Char) : Text :=
  if c = '"' ∨ c = '\\' then ['\\', c]
  else if c = '\n' then ['\\', 'n']
  else if c = '\r' then ['\\', 'r']
  else if c = '\t' then ['\\', 't']
  else if c.toNat = 8 then ['\\', 'b']
  else if c.toNat = 12 then ['\\', 'f']
  else if c.toNat < 0x20 then ['\\', 'u'] ++ fourDigits c.toNat
  else [c]

def stringText (s : Text) : Text := '"' :: s.flatMap escapeCharacter ++ ['"']

/-- A line break and the indentation of a level. -/
def newLine (level : Nat) : Text := '\n' :: List.replicate (2 * level) ' '

/-- Entries between brackets, none of them on one line with a bracket. -/
def bracketed (opening closing : Char) (level : Nat) (entries : List Text) : Text :=
  if entries = [] then [opening, closing]
  else
    opening :: joinWith [','] (entries.map (newLine (level + 1) ++ ·)) ++ newLine level ++ [closing]

mutual

def layout (level : Nat) : JsonValue → Text
  | .null => "null".toList
  | .boolean true => "true".toList
  | .boolean false => "false".toList
  | .number n => Nat.toDigits 10 n
  | .string s => stringText s
  | .array values => bracketed '[' ']' level (layoutValues (level + 1) values)
  | .object entries => bracketed '{' '}' level (layoutEntries (level + 1) entries)

def layoutValues (level : Nat) : List JsonValue → List Text
  | [] => []
  | v :: vs => v.layout level :: layoutValues level vs

def layoutEntries (level : Nat) : List (Text × JsonValue) → List Text
  | [] => []
  | (key, v) :: es => (stringText key ++ ": ".toList ++ v.layout level) :: layoutEntries level es

end

def text (v : JsonValue) : Text := v.layout 0

end JsonValue

end Wiring
