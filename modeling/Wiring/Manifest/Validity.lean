import Wiring.Manifest.Basic
import Wiring.Manifest.Template
import Wiring.Path
import Wiring.Text.Quoted

/-!
# Validity of manifests

What a manifest has to satisfy before any controller is touched, and the first fault it has.
-/

namespace Wiring

inductive ManifestFault where
  | badTemplate (template : Text)
  | badDependencyType (type : Text)
  | badDependencyName (name : Text)
  | badName (name : Text)
  | duplicate (name : Text)
  | conflicting (name : Text)
deriving DecidableEq, Repr

def ManifestFault.message : ManifestFault → Text
  | .badTemplate template =>
    "Path template must contain \x7bname\x7d: ".toList ++ template
  | .badDependencyType type => "Invalid dependency type: ".toList ++ quoted type
  | .badDependencyName name => "Invalid dependency name: ".toList ++ quoted name
  | .badName name => "Invalid controller name: ".toList ++ quoted name
  | .duplicate name => "Controller ".toList ++ name ++ " is listed more than once".toList
  | .conflicting name =>
    "Controller ".toList ++ name ++ " is listed under both extend and create".toList

def isNameCharacter (c : Char) : Bool := c.isAlphanum || c == '_'

/-- Non-empty words of ASCII letters, digits and underscores, with a slash between each two. -/
def isControllerPath (name : Text) : Bool :=
  (pieces '/' name).all fun segment => segment ≠ [] && segment.all isNameCharacter

/-- The first fault of a list of names, after those of the list that were seen already. No name
may stand in the `others`. -/
def nameFault? (others : List Text) : (seen : List Text) → List Text → Option ManifestFault
  | _, [] => none
  | seen, name :: names =>
    if ¬ isControllerPath name then some (.badName name)
    else if name ∈ others then some (.conflicting name)
    else if name ∈ seen then some (.duplicate name)
    else nameFault? others (name :: seen) names

/-- The first fault of a manifest: of its template, its dependency, or a name. -/
def Manifest.fault? (m : Manifest) : Option ManifestFault :=
  if ¬ hasPlaceholder m.pathTemplate then some (.badTemplate m.pathTemplate)
  else if ¬ isIdentifier m.dependency.type then some (.badDependencyType m.dependency.type)
  else if ¬ isIdentifier m.dependency.name then some (.badDependencyName m.dependency.name)
  else (nameFault? [] [] m.extend).or (nameFault? m.extend [] m.create)

end Wiring
