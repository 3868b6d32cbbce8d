import Wiring.Text.Basic

/-!
# Paths

A path is a text. Two paths are the same when their components are: doubled and trailing slashes
and single dots after the start do not count, two dots are a component like any other.
-/

namespace Wiring

inductive Component where
  | root
  /-- A single dot at the start. -/
  | here
  | up
  | name (segment : Text)
deriving DecidableEq, Repr

/-- The component of a segment, if it has one wherever it stands. -/
def Component.ofSegment? (segment : Text) : Option Component :=
  if segment = [] ∨ segment = ['.'] then none
  else if segment = ['.', '.'] then some .up
  else some (.name segment)

def isAbsolute (path : Text) : Bool := path.head? == some '/'

/-- The component that only the start of a path can have. -/
def leadingComponents (path : Text) : List Component :=
  if isAbsolute path then [.root]
  else if (pieces '/' path).head? = some ['.'] then [.here]
  else []

def components (path : Text) : List Component :=
  leadingComponents path ++ (pieces '/' path).filterMap Component.ofSegment?

def samePath (p q : Text) : Bool := components p == components q

/-- The path from a root: an absolute path stands for itself. -/
def joinPath (root path : Text) : Text :=
  if isAbsolute path then path
  else if root = [] ∨ root.getLast? = some '/' then root ++ path
  else root ++ '/' :: path

end Wiring
