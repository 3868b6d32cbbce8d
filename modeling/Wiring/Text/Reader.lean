import Wiring.Text.Basic

/-!
# Readers

A reader takes a part off the start of a text, or fails and leaves the text to another reader.
-/

namespace Wiring

abbrev Reader := StateT Text Option

namespace Reader

/-- One character of a class. -/
def one (accepts : Char → Bool) : Reader Char
  | c :: s => if accepts c then some (c, s) else none
  | [] => none

def char (c : Char) : Reader Unit := fun s => (after? [c] s).map fun rest => ((), rest)

def word (w : Text) : Reader Unit := fun s => (after? w s).map fun rest => ((), rest)

/-- The longest part made of characters of a class, which may be empty. -/
def run (accepts : Char → Bool) : Reader Text := fun s =>
  some (s.takeWhile accepts, s.dropWhile accepts)

def atEnd : Reader Unit
  | [] => some ((), [])
  | _ :: _ => none

/-- As many parts as there are, as long as each of them takes something. -/
def manyFrom {α : Type} (r : Reader α) (s : Text) : List α × Text :=
  match r s with
  | none => ([], s)
  | some (a, rest) =>
    if rest.length < s.length then
      let (as, last) := manyFrom r rest
      (a :: as, last)
    else ([a], rest)
termination_by s.length

def many {α : Type} (r : Reader α) : Reader (List α) := fun s => some (manyFrom r s)

/-- Exactly so many parts. -/
def times {α : Type} (r : Reader α) : Nat → Reader (List α)
  | 0 => pure []
  | n + 1 => do
    let a ← r
    let as ← times r n
    return a :: as

/-- At least one part, with a separator between each two. -/
def separated {α : Type} (r : Reader α) (separator : Reader Unit) : Reader (List α) := do
  let first ← r
  let others ← many (do separator; r)
  return first :: others

/-- What the reader takes, as text. -/
def spelling {α : Type} (r : Reader α) : Reader Text := fun s =>
  (r s).map fun (_, rest) => (s.take (s.length - rest.length), rest)

end Reader

end Wiring
