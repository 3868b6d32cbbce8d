import Wiring.Text.Basic

/-!
# UTF-8

Texts as bytes and back. A fault gives the index of the first byte that does not belong to a
well-formed sequence and, unless the bytes just end too early, how many bytes are at fault.
-/

namespace Wiring

abbrev Bytes := List UInt8

def utf8 (s : Text) : Bytes := s.flatMap String.utf8EncodeChar

inductive Utf8Fault where
  | invalid (count index : Nat)
  | incomplete (index : Nat)
deriving DecidableEq, Repr

def Utf8Fault.message : Utf8Fault → Text
  | .invalid count index =>
    s!"invalid utf-8 sequence of {count} bytes from index {index}".toList
  | .incomplete index => s!"incomplete utf-8 byte sequence from index {index}".toList

def isContinuation (b : UInt8) : Bool := 0x80 ≤ b && b ≤ 0xBF

/-- The bytes that may follow the first byte of a sequence of three or four. -/
def isSecond (first b : UInt8) : Bool :=
  if first = 0xE0 then 0xA0 ≤ b && b ≤ 0xBF
  else if first = 0xED then 0x80 ≤ b && b ≤ 0x9F
  else if first = 0xF0 then 0x90 ≤ b && b ≤ 0xBF
  else if first = 0xF4 then 0x80 ≤ b && b ≤ 0x8F
  else isContinuation b

/-- The character of a first byte without its length mark, and the continuation bytes. -/
def assemble (first : Nat) (rest : List UInt8) : Char :=
  Char.ofNat (rest.foldl (fun n b => n * 64 + (b.toNat - 0x80)) first)

def decodeFrom (index : Nat) : Bytes → Except Utf8Fault Text
  | [] => .ok []
  | a :: rest =>
    if a < 0x80 then (Char.ofNat a.toNat :: ·) <$> decodeFrom (index + 1) rest
    else if a < 0xC2 ∨ 0xF4 < a then .error (.invalid 1 index)
    else
      match rest with
      | [] => .error (.incomplete index)
      | b :: rest =>
        if a < 0xE0 then
          if isContinuation b then
            (assemble (a.toNat - 0xC0) [b] :: ·) <$> decodeFrom (index + 2) rest
          else .error (.invalid 1 index)
        else if ¬ isSecond a b then .error (.invalid 1 index)
        else
          match rest with
          | [] => .error (.incomplete index)
          | c :: rest =>
            if ¬ isContinuation c then .error (.invalid 2 index)
            else if a < 0xF0 then
              (assemble (a.toNat - 0xE0) [b, c] :: ·) <$> decodeFrom (index + 3) rest
            else
              match rest with
              | [] => .error (.incomplete index)
              | d :: rest =>
                if isContinuation d then
                  (assemble (a.toNat - 0xF0) [b, c, d] :: ·) <$> decodeFrom (index + 4) rest
                else .error (.invalid 3 index)

def decodeUtf8 (bytes : Bytes) : Except Utf8Fault Text := decodeFrom 0 bytes

end Wiring
