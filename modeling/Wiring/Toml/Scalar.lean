import Wiring.Text.Reader
import Wiring.Toml.Value

/-!
# Scalars

The spelling of strings, numbers, truth values, dates and times.
-/

namespace Wiring.Toml

open Reader

/-! ## Characters -/

/-- A space or a tab. -/
def isSpace (c : Char) : Bool := c == ' ' || c == '\t'

/-- Every character but the controls. A tab is no control here. -/
def isPlain (c : Char) : Bool := c == '\t' || (0x20 ≤ c.toNat && c.toNat != 0x7F)

def spaces : Reader Text := run isSpace

def lineBreak : Reader Unit := char '\n' <|> word ['\r', '\n']

/-- The value of a digit, of either case above nine. -/
def digitValue (c : Char) : Nat :=
  if c.isDigit then c.toNat - '0'.toNat else 10 + (c.toLower.toNat - 'a'.toNat)

def isDigitOf (base : Nat) (c : Char) : Bool :=
  (c.isDigit || ('a' ≤ c.toLower && c.toLower ≤ 'z')) && digitValue c < base

def numberOf (base : Nat) (digits : Text) : Nat :=
  digits.foldl (fun n c => n * base + digitValue c) 0

/-! ## Strings -/

/-- The character of a number of hexadecimal digits. Surrogates are no characters. -/
def codePoint (digits : Nat) : Reader Char := do
  let n := numberOf 16 (← times (one (isDigitOf 16)) digits)
  if n.isValidChar then return Char.ofNat n else failure

def escapeSequence : Reader Char := do
  char '\\'
  match ← one fun _ => true with
  | 'b' => return Char.ofNat 8
  | 't' => return '\t'
  | 'n' => return '\n'
  | 'f' => return Char.ofNat 12
  | 'r' => return '\r'
  | '"' => return '"'
  | '\\' => return '\\'
  | 'u' => codePoint 4
  | 'U' => codePoint 8
  | _ => failure

def basicCharacter : Reader Char :=
  one (fun c => isPlain c && c != '"' && c != '\\') <|> escapeSequence

def basicString : Reader Text := do
  char '"'
  let s ← many basicCharacter
  char '"'
  return s

def literalString : Reader Text := do
  char '\''
  let s ← run fun c => isPlain c && c != '\''
  char '\''
  return s

/-- A backslash at the end of a line, and the blanks up to the next character. -/
def lineContinuation : Reader Unit := do
  char '\\'
  let _ ← spaces
  lineBreak
  let _ ← many (one isSpace *> pure () <|> lineBreak)

/-- One or two quotes, which a third does not follow. -/
def fewQuotes (quote : Char) : Reader Text := do
  let quotes ← run (· == quote)
  if quotes ≠ [] ∧ quotes.length < 3 then return quotes else failure

/-- Three quotes, after as many as two that belong to the string. -/
def closingQuotes (quote : Char) : Reader Text := do
  let quotes ← run (· == quote)
  if 3 ≤ quotes.length ∧ quotes.length ≤ 5 then return quotes.drop 3 else failure

/-- A string between three quotes. A line break right after the first three does not count, and
every other one is a line feed. -/
def multilineString (quote : Char) (piece : Reader Text) : Reader Text := do
  word [quote, quote, quote]
  let _ ← optional lineBreak
  let pieces ← many (piece <|> (do lineBreak; return ['\n']) <|> fewQuotes quote)
  let last ← closingQuotes quote
  return pieces.flatten ++ last

def multilineBasicString : Reader Text :=
  multilineString '"' (lineContinuation *> pure [] <|> (do return [← basicCharacter]))

def multilineLiteralString : Reader Text :=
  multilineString '\'' (do return [← one fun c => isPlain c && c != '\''])

def string : Reader Text :=
  multilineBasicString <|> multilineLiteralString <|> basicString <|> literalString

/-! ## Numbers -/

def sign : Reader Bool := char '-' *> pure true <|> char '+' *> pure false <|> pure false

/-- Digits with single underscores between them. -/
def digits (base : Nat) : Reader Text := do
  let first ← one (isDigitOf base)
  let others ← many (optional (char '_') *> one (isDigitOf base))
  return first :: others

/-- Decimal digits without leading zeros. -/
def decimalDigits : Reader Text :=
  char '0' *> pure ['0'] <|> do
    let s ← digits 10
    if s.head? = some '0' then failure else return s

/-- Integers have 64 bits. -/
def inInt64 (n : Int) : Bool := -9223372036854775808 ≤ n && n ≤ 9223372036854775807

def boundedInteger (n : Int) : Reader Int := if inInt64 n then pure n else failure

def integer : Reader Int :=
  (do word ['0', 'x']; boundedInteger (numberOf 16 (← digits 16))) <|>
  (do word ['0', 'o']; boundedInteger (numberOf 8 (← digits 8))) <|>
  (do word ['0', 'b']; boundedInteger (numberOf 2 (← digits 2))) <|>
  do
    let negative ← sign
    let n : Int := numberOf 10 (← decimalDigits)
    boundedInteger (if negative then -n else n)

def exponent : Reader Int := do
  let _ ← one fun c => c == 'e' || c == 'E'
  let negative ← sign
  let n : Int := numberOf 10 (← digits 10)
  return if negative then -n else n

def fraction : Reader Text := char '.' *> digits 10

/-- A number with a fraction, an exponent or both. One too large counts only when negative. -/
def finiteFloat : Reader Binary64 := do
  let negative ← sign
  let whole ← decimalDigits
  let places ← optional fraction
  let power ← optional exponent
  if places.isNone && power.isNone then failure
  let decimals := places.getD []
  let x := Binary64.ofDecimal negative (numberOf 10 (whole ++ decimals))
    (power.getD 0 - decimals.length)
  if x = .infinite false then failure else return x

def specialFloat : Reader Binary64 := do
  let negative ← sign
  (word "inf".toList *> pure (.infinite negative)) <|> (word "nan".toList *> pure .nan)

def float : Reader Binary64 := finiteFloat <|> specialFloat

def boolean : Reader Bool :=
  word "true".toList *> pure true <|> word "false".toList *> pure false

/-! ## Dates and times -/

/-- A number of exactly so many digits, within bounds. -/
def fixedNumber (width least greatest : Nat) : Reader Nat := do
  let n := numberOf 10 (← times (one Char.isDigit) width)
  if least ≤ n ∧ n ≤ greatest then return n else failure

def isLeapYear (year : Nat) : Bool := year % 4 == 0 && (year % 100 != 0 || year % 400 == 0)

def daysInMonth (year month : Nat) : Nat :=
  if month = 2 then if isLeapYear year then 29 else 28
  else if month = 4 ∨ month = 6 ∨ month = 9 ∨ month = 11 then 30
  else 31

def date : Reader Unit := do
  let year ← fixedNumber 4 0 9999
  char '-'
  let month ← fixedNumber 2 1 12
  char '-'
  let _ ← fixedNumber 2 1 (daysInMonth year month)

/-- A time of day. A minute may have a leap second. -/
def time : Reader Unit := do
  let _ ← fixedNumber 2 0 23
  char ':'
  let _ ← fixedNumber 2 0 59
  char ':'
  let _ ← fixedNumber 2 0 60
  let _ ← optional (do char '.'; let _ ← one Char.isDigit; run Char.isDigit)

def timeOffset : Reader Unit :=
  (do let _ ← one fun c => c == 'Z' || c == 'z') <|> do
    let _ ← one fun c => c == '+' || c == '-'
    let _ ← fixedNumber 2 0 23
    char ':'
    let _ ← fixedNumber 2 0 59

def dateTime : Reader Text :=
  spelling ((do
    date
    let _ ← optional (do
      let _ ← one fun c => c == 'T' || c == 't' || c == ' '
      time
      let _ ← optional timeOffset)) <|> time)

def scalar : Reader Value :=
  Value.string <$> string <|> Value.datetime <$> dateTime <|> Value.float <$> float <|>
    Value.integer <$> integer <|> Value.boolean <$> boolean

end Wiring.Toml
