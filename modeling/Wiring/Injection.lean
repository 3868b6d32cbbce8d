import Wiring.Dependency
import Wiring.Source.ClassConstructor
import Wiring.Source.ClassHeader
import Wiring.Source.Statement
import Wiring.Source.TrailingComma

/-!
# Injection

Adding a dependency to the source of a controller: to the parameter list of its constructor, or
with a constructor of its own, together with the import. `inject` leaves a source alone that
already takes the dependency.
-/

namespace Wiring

inductive Mode where
  /-- Add to the constructor that is there. -/
  | extend
  /-- Add a constructor where there is none. -/
  | create
deriving DecidableEq, Repr

inductive Reason where
  /-- The constructor takes the dependency already. -/
  | present
  /-- There is no place of the right layout. -/
  | noPlace
deriving DecidableEq, Repr

inductive Outcome where
  | injected (content : Text)
  | skipped (reason : Reason)
deriving DecidableEq, Repr

/-! ## Recognition -/

/-- Whether the dependency's type and variable stand here as whole words. -/
def Dependency.standsAt (d : Dependency) (before rest : Text) : Bool :=
  isBoundary before.head? rest.head? &&
    match after? d.type rest >>= afterBlanks? >>= after? ('$' :: d.name) with
    | some r => isBoundary ('$' :: d.name).getLast? r.head?
    | none => false

/-- Whether a parameter list takes the dependency. -/
def Dependency.isAmong (d : Dependency) (parameters : Text) : Bool :=
  (leftmost (fun before rest => if d.standsAt before rest then some () else none) parameters).isSome

/-- Whether the class constructor takes the dependency. Its type and name may be of any length: the limit
on the size of a pattern made of them is left out. -/
def Dependency.isTaken (d : Dependency) (source : Text) : Bool :=
  match parameterList? (mask source) with
  | some p => d.isAmong p.inside
  | none => false

/-! ## Rewriting -/

/-- Adds the dependency to the first constructor with a trailing comma. -/
def Dependency.appendParameter (d : Dependency) (source : Text) : Option Text :=
  leftmost (fun before rest =>
    (openConstructor? rest).map fun o => before.reverse ++ o.append d.parameter) source

/-- A constructor that takes the dependency alone, and an empty line. -/
def Dependency.newConstructor (d : Dependency) (lineBreak : Text) : Text :=
  joinWith lineBreak [
    "    public function __construct(".toList,
    "        ".toList ++ d.parameter,
    "    ) \x7b".toList,
    "    \x7d".toList,
    [],
    []]

/-- Adds a constructor after the first class header. -/
def Dependency.addConstructor (d : Dependency) (source : Text) : Option Text :=
  leftmost (fun before rest =>
    (classHeader? rest).map fun h =>
      before.reverse ++ h.header ++ d.newConstructor h.lineBreak ++ h.rest) source

/-! ## Imports -/

/-- The use statements of a source, and the text after the last. -/
def useStatements (source : Text) : List Statement × Text := statements "use".toList source

/-- Whether a source needs no import of the dependency. -/
def Dependency.isImported (d : Dependency) (source : Text) : Bool :=
  match d.imported with
  | some name => (useStatements source).1.any fun g => g.text == useStatement name
  | none => true

/-- Puts a statement before the first greater one, or after the last. -/
def placeStatement (lineBreak text : Text) : List Statement → List Statement
  | [] => [⟨lineBreak, text⟩]
  | g :: gs =>
    if text < g.text then ⟨g.before, text⟩ :: ⟨lineBreak, g.text⟩ :: gs
    else g :: placeStatement lineBreak text gs

/-- The line break of a source: with a carriage return as soon as one line has it. -/
def sourceLineBreak (source : Text) : Text :=
  if occurs ['\r', '\n'] source then ['\r', '\n'] else ['\n']

/-- The source with one more use statement: in alphabetical order, or after the namespace when
there is none yet. -/
def placeImport (text source : Text) : Option Text :=
  let lineBreak := sourceLineBreak source
  match useStatements source with
  | ([], _) =>
    (nextStatement? "namespace".toList true source).map fun (g, rest) =>
      g.before ++ g.text ++ lineBreak ++ lineBreak ++ text ++ rest
  | (gs, last) => some (joinStatements (placeStatement lineBreak text gs) last)

/-- Imports the dependency, unless it has no import or the source has it already. -/
def Dependency.addUse (d : Dependency) (source : Text) : Option Text :=
  match d.imported with
  | some name => if d.isImported source then none else placeImport (useStatement name) source
  | none => none

/-! ## Injection -/

/-- Adds the dependency to the constructor. A class that has one is never given a second. -/
def Dependency.rewrite (d : Dependency) (mode : Mode) (source : Text) : Option Text :=
  match mode with
  | .extend => d.appendParameter source
  | .create =>
    if declaresConstructor source then d.appendParameter source else d.addConstructor source

def Dependency.inject (d : Dependency) (mode : Mode) (source : Text) : Outcome :=
  if d.isTaken source then .skipped .present
  else
    match d.rewrite mode source with
    | some content => .injected ((d.addUse content).getD content)
    | none => .skipped .noPlace

end Wiring
