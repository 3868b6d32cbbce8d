import Wiring.Text.Basic

/-!
# Path templates

A template is a path in which `{name}` stands for the name of a controller, any number of times.
-/

namespace Wiring

/-- The template with a name for every placeholder. -/
def expandTemplate (name : Text) : Text → Text
  | '{' :: 'n' :: 'a' :: 'm' :: 'e' :: '}' :: s => name ++ expandTemplate name s
  | c :: s => c :: expandTemplate name s
  | [] => []

def hasPlaceholder : Text → Bool
  | '{' :: 'n' :: 'a' :: 'm' :: 'e' :: '}' :: _ => true
  | _ :: s => hasPlaceholder s
  | [] => false

end Wiring
