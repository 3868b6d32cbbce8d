import Wiring.Text.Basic
import Wiring.Text.CharacterWidth
import Wiring.Text.Emoji

/-!
# Display width

How many terminal columns a line of text takes. Characters add up one by one, but for emoji
sequences, which take two columns in all, and the ligatures of some scripts. What a character adds
depends on those after it, so a line is read from its end. Of a colour sequence only the first
character counts.
-/

namespace Wiring

/-! ## Scripts -/

/-- Arabic letters that join an alef into one letter. -/
def lamRanges : List (Nat × Nat) := [
  (0x644, 0x644), (0x6B5, 0x6B8), (0x76A, 0x76A), (0x8A6, 0x8A6), (0x8C7, 0x8C7)]

def alefRanges : List (Nat × Nat) := [
  (0x622, 0x623), (0x625, 0x625), (0x627, 0x627), (0x671, 0x673), (0x675, 0x675), (0x773, 0x774),
  (0x870, 0x882)]

/-- Characters without width that keep Arabic letters from joining. -/
def separatingRanges : List (Nat × Nat) := [
  (0x605, 0x605), (0x890, 0x891), (0x8E2, 0x8E2), (0x9BE, 0x9BE), (0x9D7, 0x9D7), (0xB3E, 0xB3E),
  (0xB57, 0xB57), (0xBBE, 0xBBE), (0xBD7, 0xBD7), (0xCC0, 0xCC0), (0xCC2, 0xCC2), (0xCC7, 0xCC8),
  (0xCCA, 0xCCB), (0xCD5, 0xCD6), (0xD3E, 0xD3E), (0xD4E, 0xD4E), (0xD57, 0xD57), (0xDCF, 0xDCF),
  (0xDDF, 0xDDF), (0x1160, 0x11FF), (0x180E, 0x180E), (0x1B35, 0x1B35), (0x1B3B, 0x1B3B),
  (0x1B3D, 0x1B3D), (0x1B43, 0x1B43), (0x200C, 0x200D), (0x2065, 0x2069), (0x302E, 0x302F),
  (0x3164, 0x3164), (0xA8FA, 0xA8FA), (0xD7B0, 0xD7C6), (0xD7CB, 0xD7FB), (0xFF9E, 0xFFA0),
  (0xFFF0, 0xFFF8), (0x111C2, 0x111C3), (0x1133E, 0x1133E), (0x11357, 0x11357),
  (0x114B0, 0x114B0), (0x114BD, 0x114BD), (0x115AF, 0x115AF), (0x11930, 0x11930),
  (0x1193F, 0x1193F), (0x11941, 0x11941), (0x11A3A, 0x11A3A), (0x11A84, 0x11A89),
  (0x11D46, 0x11D46), (0x11F02, 0x11F02), (0x1D165, 0x1D165), (0x1D16E, 0x1D172),
  (0xE0000, 0xE0000), (0xE0002, 0xE001F), (0xE0080, 0xE00FF), (0xE01F0, 0xE0FFF)]

/-- Khmer letters that are written below the line after a coeng sign. -/
def coengRanges : List (Nat × Nat) := [
  (0x1780, 0x1782), (0x1784, 0x1787), (0x1789, 0x178C), (0x178E, 0x1793), (0x1795, 0x1798),
  (0x179B, 0x179D), (0x17A0, 0x17A0), (0x17A2, 0x17A2), (0x17A7, 0x17A7), (0x17AB, 0x17AC),
  (0x17AF, 0x17AF)]

def tifinaghRanges : List (Nat × Nat) := [(0x2D31, 0x2D65), (0x2D6F, 0x2D6F)]

/-- Marks that are never shown and break no ligature. -/
def silentMarkRanges : List (Nat × Nat) := [
  (0x34F, 0x34F), (0x17B4, 0x17B5), (0x180B, 0x180D), (0x180F, 0x180F), (0xFE00, 0xFE0F),
  (0xE0100, 0xE01EF)]

def isJoiner (c : Char) : Bool := c.toNat == 0x200D

/-- Whether Arabic letters join across a character. -/
def isTransparent (c : Char) : Bool := charWidth c == 0 && !inRanges separatingRanges c

def isTagLetter (c : Char) : Bool := 0xE0061 ≤ c.toNat && c.toNat ≤ 0xE007A

def isTagDigit (c : Char) : Bool := 0xE0030 ≤ c.toNat && c.toNat ≤ 0xE0039

/-! ## What follows a character -/

/-- What a text starts with, as far as it may change the width of a character put before it. A
letter of a ligature says whether a joiner stands before it. -/
inductive Start where
  | plain
  | tone
  | regional
  /-- Two regional indicators or more. -/
  | regionals
  | emoji
  /-- A joiner and an emoji. -/
  | joined
  /-- A keycap, a joiner and an emoji. -/
  | keycap
  /-- One regional indicator before `joined`, or an even or an odd number of more. -/
  | joinedRegional
  | joinedEven
  | joinedOdd
  /-- Tags up to the end tag before `joined`: so many letters. -/
  | tagLetters (count : Nat)
  /-- So many digits, whatever letters follow them. -/
  | tagDigits (count : Nat)
  | alef
  | lamed (isJoined : Bool)
  | coengLetter
  | ya (isJoined : Bool)
  /-- The vowel sign before a joined ya. -/
  | yaVowel
  | tifinagh (isJoined : Bool)
  | tifinaghJoiner
  | toneLetter
  | orkhonI (isJoined : Bool)
deriving DecidableEq, Repr

def Start.ofChar (c : Char) : Start :=
  if inRanges alefRanges c then .alef
  else if c.toNat = 0x5DC then .lamed false
  else if inRanges coengRanges c then .coengLetter
  else if c.toNat = 0x1A10 then .ya false
  else if inRanges tifinaghRanges c then .tifinagh false
  else if c.toNat = 0xA4FC ∨ c.toNat = 0xA4FD then .toneLetter
  else if c.toNat = 0x10C03 then .orkhonI false
  else if isRegional c then .regional
  else if isTone c then .tone
  else if isEmoji c then .emoji
  else .plain

/-- Letters of ligatures, which a selector before them does not hide. -/
def Start.isLigature : Start → Bool
  | .alef | .lamed _ | .coengLetter | .ya _ | .yaVowel | .tifinagh _ | .tifinaghJoiner
  | .toneLetter | .orkhonI _ => true
  | _ => false

/-- Whether joiners and silent marks may stand before the rest of a ligature. -/
def Start.skipsMarks (s : Start) : Bool := s.isLigature && s != .alef

/-- The same with a joiner before it. -/
def Start.join : Start → Start
  | .lamed _ => .lamed true
  | .ya _ => .ya true
  | .tifinagh _ => .tifinagh true
  | .orkhonI _ => .orkhonI true
  | s => s

/-- The columns that a character adds before a start that it forms a ligature with. -/
def Start.ligate? (s : Start) (c : Char) : Option (Int × Start) :=
  match s with
  | .alef =>
    if inRanges lamRanges c then some (0, .plain)
    else if isTransparent c then some (0, .alef)
    else none
  | .lamed true => if c.toNat = 0x5D0 then some (0, .plain) else none
  | .coengLetter => if c.toNat = 0x17D2 then some (-1, .plain) else none
  | .ya true => if c.toNat = 0x1A17 then some (0, .yaVowel) else none
  | .yaVowel => if c.toNat = 0x1A15 then some (0, .plain) else none
  | .tifinagh isJoined =>
    if c.toNat = 0x2D7F then some (1, .tifinaghJoiner)
    else if isJoined ∧ inRanges tifinaghRanges c then some (0, .plain)
    else none
  | .tifinaghJoiner => if inRanges tifinaghRanges c then some (-1, .plain) else none
  | .toneLetter => if 0xA4F8 ≤ c.toNat ∧ c.toNat ≤ 0xA4FB then some (0, .plain) else none
  | .orkhonI true => if c.toNat = 0x10C32 then some (0, .plain) else none
  | _ => none

/-- The columns that a character adds before a start that it forms an emoji sequence with. -/
def Start.sequence? (s : Start) (c : Char) : Option (Int × Start) :=
  match s with
  | .tone =>
    if takesTone c then some (0, .emoji) else if isJoiner c then some (0, .joined) else none
  | .regional => if isRegional c then some (1, .regionals) else none
  | .regionals =>
    if isRegional c then some (1, .regionals)
    else if isJoiner c then some (0, .joined)
    else none
  | .emoji => if isJoiner c then some (0, .joined) else none
  | .joined =>
    if c.toNat = 0x20E3 then some (0, .keycap)
    else if isRegional c then some (1, .joinedRegional)
    else if isTone c then some (0, .tone)
    else if c.toNat = 0xE007F then some (0, .tagLetters 0)
    else if isEmoji c then some (0, .emoji)
    else none
  | .joinedRegional => if isRegional c then some (-1, .joinedEven) else none
  | .joinedEven =>
    if isRegional c then some (3, .joinedOdd)
    else if isJoiner c then some (0, .joined)
    else none
  | .joinedOdd =>
    if isRegional c then some (-1, .joinedEven)
    else if isJoiner c then some (0, .joined)
    else none
  | .tagLetters n =>
    if isTagLetter c ∧ n < 6 then some (0, .tagLetters (n + 1))
    else if isTagDigit c ∧ n ≤ 4 then some (0, .tagDigits 1)
    else if c.toNat = 0x1F3F4 ∧ 3 ≤ n then some (0, .emoji)
    else none
  | .tagDigits n =>
    if isTagDigit c ∧ n < 3 then some (0, .tagDigits (n + 1))
    else if c.toNat = 0x1F3F4 ∧ n = 3 then some (0, .emoji)
    else none
  | _ => none

/-- The columns that a character adds before a start, and the start of the text with it. -/
def Start.precede (s : Start) (c : Char) : Int × Start :=
  match (s.ligate? c).or (s.sequence? c) with
  | some r => r
  | none => (charWidth c, .ofChar c)

/-- A start with the selectors before it. -/
structure Following where
  start : Start
  emojiStyle : Bool := false
  textStyle : Bool := false
deriving DecidableEq, Repr

/-- An emoji selector hides what follows it, but for a ligature and a joined emoji. -/
def Following.selectEmoji (f : Following) : Following :=
  if f.start.isLigature ∨ f.start = .joined ∨ f.start = .keycap then { f with emojiStyle := true }
  else { start := .plain, emojiStyle := true }

def Following.selectText (f : Following) : Following :=
  if f.start.isLigature then { f with textStyle := true }
  else { start := .plain, textStyle := true }

/-- What follows a character that no emoji selector changes. -/
def Following.ignoreEmoji (f : Following) : Following :=
  if ¬ f.emojiStyle then f
  else if f.start.isLigature then { f with emojiStyle := false }
  else { start := .plain }

/-- The columns that a character without emoji selector adds, and what then follows. -/
def Following.precedePlain (f : Following) (c : Char) : Int × Following :=
  if c.toNat ≤ 0xA0 then (1, { start := .plain })
  else if c.toNat = 0xFE0F then (0, f.selectEmoji)
  else if c.toNat = 0xFE0E then (0, f.selectText)
  else if f.textStyle ∧ hasTextStyle c then (1, { start := .plain })
  else if f.start.skipsMarks ∧ isJoiner c then (0, { start := f.start.join })
  else if f.start.skipsMarks ∧ inRanges silentMarkRanges c then (0, { start := f.start })
  else
    let (width, start) := f.start.precede c
    (width, { start })

/-- The columns that a character adds, and what then follows. -/
def Following.precede (f : Following) (c : Char) : Int × Following :=
  if f.emojiStyle ∧ hasEmojiStyle c then
    (if f.start = .joined ∨ f.start = .keycap then 0 else 2, { start := .emoji })
  else f.ignoreEmoji.precedePlain c

/-- The columns of a text, and what it starts with. -/
def textWidth : Text → Int × Following
  | [] => (0, { start := .plain })
  | c :: s =>
    let (rest, f) := textWidth s
    let (width, f) := f.precede c
    (width + rest, f)

/-! ## Colours -/

/-- How far a colour sequence, ESC `[` … `m`, has been read. -/
inductive Colour where
  | outside
  | escape
  | inside
  | last
deriving DecidableEq, Repr

def Colour.step : Colour → Char → Colour
  | .escape, c => if c = '[' then .inside else .outside
  | .inside, c => if c = 'm' then .last else .inside
  | _, c => if c.toNat = 0x1B then .escape else .outside

/-- Whether a character of a colour sequence was counted. -/
def Colour.hides (k : Colour) (c : Char) : Bool :=
  (k == .inside || k == .last) && !isControlCode c && charWidth c != 0

/-- The characters of colour sequences after their first. -/
def hiddenCount : Colour → Text → Nat
  | _, [] => 0
  | k, c :: s => (if (k.step c).hides c then 1 else 0) + hiddenCount (k.step c) s

def displayWidth (s : Text) : Nat := (textWidth s).1.toNat - hiddenCount .outside s

end Wiring
