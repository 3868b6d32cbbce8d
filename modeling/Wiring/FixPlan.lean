import Wiring.Manifest.Targets
import Wiring.Text.Lowercase

/-!
# Fix plans

The places that create entities, each with the statement that hands the injected value on, and
the controllers they are in.
-/

namespace Wiring

/-- A controller with fixes and how a run handles it, if it does. -/
structure ScheduledController where
  controller : Text
  mode : Option Mode
deriving DecidableEq, Repr

structure Instruction where
  controller : Text
  method : Text
  line : UInt32
  entity : Text
  instruction : Text
deriving DecidableEq, Repr

structure FixPlan where
  controllers : List ScheduledController
  instructions : List Instruction
deriving DecidableEq, Repr

def FixPlan.total (p : FixPlan) : Nat := p.controllers.length

/-- The controllers of a list of fixes without those seen before, in the order they appear. -/
def newControllers : (seen : List Text) → List Fix → List Text
  | _, [] => []
  | seen, fix :: fixes =>
    if fix.controller ∈ seen then newControllers seen fixes
    else fix.controller :: newControllers (fix.controller :: seen) fixes

/-- The controllers of a list of fixes, each once, in the order they appear. -/
def controllersOf (fixes : List Fix) : List Text := newControllers [] fixes

/-- The variable of an entity: its name with a small first letter. -/
def variableOf : Text → Text
  | [] => "$entity".toList
  | c :: s => '$' :: lowerChar c ++ s

/-- The expression that has the value. -/
def Fix.value (fix : Fix) (d : Dependency) (a : Accessors) : Text :=
  match fix.inheritFrom with
  | some parent =>
    '$' :: parent.dropWhile (· == '$') ++ "->".toList ++ a.parentGetter ++ "()".toList
  | none => "$this->".toList ++ d.name ++ "->".toList ++ a.currentGetter ++ "()".toList

/-- The statement that fixes a place. -/
def Fix.statement (fix : Fix) (d : Dependency) (a : Accessors) : Text :=
  variableOf fix.entity ++ "->".toList ++ a.setter ++ '(' :: fix.value d a ++ ");".toList

def Fix.instruction (fix : Fix) (d : Dependency) (a : Accessors) : Instruction :=
  ⟨fix.controller, fix.method, fix.line, fix.entity, fix.statement d a⟩

def Manifest.plan (m : Manifest) : FixPlan :=
  { controllers := (controllersOf m.fixes).map fun c => ⟨c, m.modeAt c⟩
    instructions := m.fixes.map fun fix => fix.instruction m.dependency m.accessors }

end Wiring
