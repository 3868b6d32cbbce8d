import Wiring.Injection
import Wiring.Manifest.Basic
import Wiring.Manifest.Template
import Wiring.Path

/-!
# Targets

The controllers that a manifest lists, with the path and the mode of each.
-/

namespace Wiring

structure Target where
  name : Text
  mode : Mode
  path : Text
deriving DecidableEq, Repr

/-- Where a controller lives below a root. -/
def Manifest.pathOf (m : Manifest) (root name : Text) : Text :=
  joinPath root (expandTemplate name m.pathTemplate)

/-- The names of a mode. -/
def Manifest.names (m : Manifest) : Mode → List Text
  | .extend => m.extend
  | .create => m.create

def Manifest.targetsOf (m : Manifest) (root : Text) (mode : Mode) : List Target :=
  (m.names mode).map fun name => ⟨name, mode, m.pathOf root name⟩

/-- All controllers to extend, then all that get a constructor. -/
def Manifest.targets (m : Manifest) (root : Text) : List Target :=
  m.targetsOf root .extend ++ m.targetsOf root .create

/-- Whether a list of a manifest names the controller at a path, given without the root. -/
def Manifest.lists (m : Manifest) (mode : Mode) (path : Text) : Bool :=
  (m.names mode).any fun name => samePath (expandTemplate name m.pathTemplate) path

/-- The mode of the controller at a path, given without the root. -/
def Manifest.modeAt (m : Manifest) (path : Text) : Option Mode :=
  if m.lists .extend path then some .extend
  else if m.lists .create path then some .create
  else none

end Wiring
