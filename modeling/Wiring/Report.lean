import Wiring.Injection

/-!
# Reports

What became of each target, and how many of each kind there are.
-/

namespace Wiring

inductive Status where
  | injected
  /-- The constructor takes the dependency already. -/
  | present
  /-- There is no place of the right layout. -/
  | noPlace
deriving DecidableEq, Repr

def Outcome.status : Outcome → Status
  | .injected _ => .injected
  | .skipped .present => .present
  | .skipped .noPlace => .noPlace

def Status.bullet : Status → Text
  | .injected => ['✓']
  | .present => ['•']
  | .noPlace => ['✗']

def Status.remark : Status → Option Text
  | .injected => none
  | .present => some "already injected".toList
  | .noPlace => some "pattern not matched".toList

/-- The line that shows a target and its status. -/
def statusLine (name : Text) (status : Status) : Text :=
  "  ".toList ++ status.bullet ++ ' ' :: name ++
    match status.remark with
    | some remark => " - ".toList ++ remark
    | none => []

/-- The line above the targets of a mode. -/
def Mode.header : Mode → Text
  | .extend => "Extending existing constructors...".toList
  | .create => "Creating new constructors...".toList

structure Report where
  name : Text
  path : Text
  mode : Mode
  status : Status
  warning : Option Text := none
deriving DecidableEq, Repr

structure Summary where
  dryRun : Bool
  injected : Nat := 0
  present : Nat := 0
  noPlace : Nat := 0
  reports : List Report := []
deriving DecidableEq, Repr

/-- The summary with one more report, counted by its status. -/
def Summary.add (s : Summary) (r : Report) : Summary :=
  let s := { s with reports := s.reports ++ [r] }
  match r.status with
  | .injected => { s with injected := s.injected + 1 }
  | .present => { s with present := s.present + 1 }
  | .noPlace => { s with noPlace := s.noPlace + 1 }

end Wiring
