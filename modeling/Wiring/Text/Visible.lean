import Wiring.Text.Utf8

/-!
# Texts without terminal control

What is left of a text where no terminal interprets it: control sequences are taken out, and so
are the control characters that are not white space. A text is printed in pieces, and a sequence
that one piece leaves open goes on in the next.
-/

namespace Wiring

/-- How far a control sequence has been read. -/
inductive Control where
  | ground
  | escape
  /-- After an escape and intermediate characters. -/
  | intermediate
  /-- Up to a final character. -/
  | sequence
  /-- Up to a bell. -/
  | command
  /-- The head of a device string, up to a final character. -/
  | device
  | deviceParameter
  | deviceIntermediate
  /-- Up to a string terminator. -/
  | string
deriving DecidableEq, Repr

def isAsciiSpace (c : Char) : Bool :=
  c == ' ' || c == '\t' || c == '\n' || c == '\r' || c.toNat == 12

def isControl (c : Char) : Bool := c.toNat < 0x20 || c.toNat == 0x7F

/-- Whether one of the bytes of a character is a string terminator. -/
def endsString (c : Char) : Bool := (utf8 [c]).contains 0x9C

/-- Escapes start a sequence anywhere, and two controls end one anywhere. -/
def Control.interrupt (k : Control) (c : Char) : Control :=
  if c.toNat = 0x1B then .escape
  else if c.toNat = 0x18 ∨ c.toNat = 0x1A then .ground
  else k

/-- The effect of a printable ASCII character. -/
def Control.advance (k : Control) (c : Char) : Control :=
  match k with
  | .ground => .ground
  | .escape =>
    if c.toNat < 0x30 then .intermediate
    else if c = '[' then .sequence
    else if c = ']' then .command
    else if c = 'P' then .device
    else if c = 'X' ∨ c = '^' ∨ c = '_' then .string
    else .ground
  | .intermediate => if c.toNat < 0x30 then .intermediate else .ground
  | .sequence => if c.toNat < 0x40 then .sequence else .ground
  | .command => .command
  | .device =>
    if c.toNat < 0x30 then .deviceIntermediate
    else if c.toNat < 0x40 then .deviceParameter
    else .string
  | .deviceParameter =>
    if c.toNat < 0x30 then .deviceIntermediate
    else if c.toNat < 0x3C then .deviceParameter
    else .string
  | .deviceIntermediate => if c.toNat < 0x30 then .deviceIntermediate else .string
  | .string => .string

def Control.step (k : Control) (c : Char) : Control :=
  if c.toNat = 0x1B ∨ c.toNat = 0x18 ∨ c.toNat = 0x1A then k.interrupt c
  else if isControl c then (if k = .command ∧ c.toNat = 7 then .ground else k)
  else if 0x80 ≤ c.toNat then (if k = .string ∧ endsString c then .ground else k)
  else k.advance c

/-- Whether white space shows in the middle of a sequence. -/
def Control.showsSpace : Control → Bool
  | .ground | .escape | .intermediate | .sequence => true
  | _ => false

/-- Whether a character shows although it follows a sequence that may not be over. -/
def Control.shows (k : Control) (c : Char) : Bool :=
  if isControl c then isAsciiSpace c && k.showsSpace else k == .ground

/-- What a piece shows, and how far a sequence is read at its end. After a character that shows,
all show up to the next that does not. -/
def visibleFrom : (showing : Bool) → Control → Text → Text × Control
  | _, k, [] => ([], k)
  | showing, k, c :: s =>
    if showing ∧ (isAsciiSpace c ∨ ¬ isControl c) then
      let (shown, k) := visibleFrom true (if 0x80 ≤ c.toNat then .ground else k) s
      (c :: shown, k)
    else
      let k := if showing then k.interrupt c else k
      if k.shows c then
        let (shown, k) := visibleFrom true k s
        (c :: shown, k)
      else visibleFrom false (k.step c) s

/-- What pieces show one after another. -/
def visiblePieces : Control → List Text → Text
  | _, [] => []
  | k, piece :: rest =>
    let (shown, k) := visibleFrom false k piece
    shown ++ visiblePieces k rest

def visible (pieces : List Text) : Text := visiblePieces .ground pieces

/-- What printing a line shows: the line break is a piece of its own, and an open sequence may
hide it. -/
def printed (line : Text) : Text := visible [line, ['\n']]

end Wiring
