import Wiring.Text.Basic
import Wiring.Text.Ranges

/-!
# White space

The characters with the Unicode property White_Space, and the spaces and tabs among them.
-/

namespace Wiring

def blankRanges : List (Nat × Nat) := [
  (0x9, 0xD), (0x20, 0x20), (0x85, 0x85), (0xA0, 0xA0), (0x1680, 0x1680), (0x2000, 0x200A),
  (0x2028, 0x2029), (0x202F, 0x202F), (0x205F, 0x205F), (0x3000, 0x3000)]

def isBlank (c : Char) : Bool := inRanges blankRanges c

/-- A space or a tab. -/
def isIndent (c : Char) : Bool := c == ' ' || c == '\t'

/-- The rest after at least one blank and all that follow it. -/
def afterBlanks? : Text → Option Text
  | [] => none
  | c :: s => if isBlank c then some (s.dropWhile isBlank) else none

/-- A line feed, alone or after a carriage return, and the rest. -/
def lineBreak? : Text → Option (Text × Text)
  | '\r' :: '\n' :: s => some (['\r', '\n'], s)
  | '\n' :: s => some (['\n'], s)
  | _ => none

end Wiring
