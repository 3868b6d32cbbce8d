import Wiring.Dependency

/-!
# Manifests

A manifest lists the controllers to work on, where they live, the dependency they get, and the
places that create entities and are left to fix by hand.
-/

namespace Wiring

/-- The methods that a fix calls. -/
structure Accessors where
  setter : Text := "setCompany".toList
  currentGetter : Text := "getCurrentCompany".toList
  parentGetter : Text := "getCompany".toList
deriving DecidableEq, Repr

/-- A place that creates an entity. -/
structure Fix where
  controller : Text
  entity : Text
  method : Text
  line : UInt32
  /-- The expression that has the value already. -/
  inheritFrom : Option Text := none
deriving DecidableEq, Repr

structure Manifest where
  pathTemplate : Text := "src/Controller/\x7bname\x7d.php".toList
  extend : List Text := []
  create : List Text := []
  dependency : Dependency := {}
  accessors : Accessors := {}
  fixes : List Fix := []
deriving DecidableEq, Repr

/-- The manifest with more names at the end of its lists. -/
def Manifest.addNames (m : Manifest) (extend create : List Text) : Manifest :=
  { m with extend := m.extend ++ extend, create := m.create ++ create }

end Wiring
