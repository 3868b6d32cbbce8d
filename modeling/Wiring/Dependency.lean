import Wiring.Text.Basic

/-!
# Dependencies

The service that a controller takes in its constructor: a class, the property that holds it, and
the class to import, if any.
-/

namespace Wiring

structure Dependency where
  type : Text := "CompanyContext".toList
  name : Text := "companyContext".toList
  imported : Option Text := none
deriving DecidableEq, Repr

def isIdentifierStart (c : Char) : Bool := c.isAlpha || c == '_'

/-- A non-empty word of ASCII letters, digits and underscores that starts with no digit. -/
def isIdentifier : Text → Bool
  | [] => false
  | c :: s => isIdentifierStart c && s.all fun d => d.isAlphanum || d == '_'

/-- The promoted parameter, without indentation or comma. -/
def Dependency.parameter (d : Dependency) : Text :=
  "private readonly ".toList ++ d.type ++ " $".toList ++ d.name

/-- The statement that imports a class, written without leading backslashes. -/
def useStatement (name : Text) : Text :=
  "use ".toList ++ name.dropWhile (· == '\\') ++ [';']

end Wiring
