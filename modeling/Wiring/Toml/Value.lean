import Wiring.Number.Binary64

/-!
# TOML values

A document is a table: keys with their values, in the order of the document.
-/

namespace Wiring.Toml

inductive Value where
  | string (s : Text)
  | integer (n : Int)
  | float (x : Binary64)
  | boolean (b : Bool)
  /-- A date, a time or both, as written. -/
  | datetime (s : Text)
  | array (values : List Value)
  | table (entries : List (Text × Value))

abbrev Table := List (Text × Value)

end Wiring.Toml
