import Wiring.Text.Basic

/-!
# Floating-point numbers

Numbers of 53 binary digits, read from a decimal number by rounding to nearest, a tie to even, and
written in positional notation with the fewest digits that read back as the same number.
-/

namespace Wiring

inductive Binary64 where
  /-- A mantissa below 2 to the 53, times 2 to the exponent. -/
  | finite (negative : Bool) (mantissa : Nat) (exponent : Int)
  | infinite (negative : Bool)
  | nan
deriving DecidableEq, Repr

/-- A power, one for a negative exponent. -/
def raise (base : Nat) (exponent : Int) : Nat := base.pow exponent.toNat

/-- Mantissas stay below this, and from half of it they use all their digits. -/
def mantissaLimit : Nat := raise 2 53

/-! ## Reading -/

/-- The quotient rounded to nearest, a tie to the even neighbour. -/
def roundQuotient (num den : Nat) : Nat :=
  let q := num / den
  let twice := 2 * (num % den)
  if twice < den then q
  else if den < twice then q + 1
  else q + q % 2

/-- A fraction divided by a power of two. -/
def scaleDown (num den : Nat) (exponent : Int) : Nat × Nat :=
  (num * raise 2 (-exponent), den * raise 2 exponent)

def Binary64.ofFraction (negative : Bool) (num den : Nat) : Binary64 :=
  let least : Int := (num.log2 : Int) - den.log2 - 53
  let scaled := scaleDown num den least
  let exponent := max (if mantissaLimit ≤ scaled.1 / scaled.2 then least + 1 else least) (-1074)
  let scaled := scaleDown num den exponent
  let mantissa := roundQuotient scaled.1 scaled.2
  let (mantissa, exponent) :=
    if mantissa = mantissaLimit then (mantissaLimit / 2, exponent + 1) else (mantissa, exponent)
  if 971 < exponent then .infinite negative else .finite negative mantissa exponent

def digitCount (n : Nat) : Nat := (Nat.toDigits 10 n).length

/-- The number nearest to `digits` times 10 to the `power`. -/
def Binary64.ofDecimal (negative : Bool) (digits : Nat) (power : Int) : Binary64 :=
  let size := digitCount digits + power
  if digits = 0 ∨ size < -330 then .finite negative 0 0
  else if 310 < size then .infinite negative
  else .ofFraction negative (digits * raise 10 power) (raise 10 (-power))

/-! ## Writing -/

/-- Digits with the place of the point: `digits` times 10 to the `power`. -/
structure Decimal where
  digits : Nat
  power : Int
deriving DecidableEq, Repr

/-- Compares `n` times 10 to the `power` with `m` times 2 to the `exponent`, as two numbers. -/
def commonScale (n : Nat) (power : Int) (m : Nat) (exponent : Int) : Nat × Nat :=
  (n * raise 10 power * raise 2 (-exponent), m * raise 2 exponent * raise 10 (-power))

/-- Whether a decimal lies in the interval that rounds to a number, bounds given in quarters of
its last place. -/
def Decimal.readsAs (d : Decimal) (low high : Nat) (closed : Bool) (exponent : Int) : Bool :=
  let (a, l) := commonScale d.digits d.power low exponent
  let (b, h) := commonScale d.digits d.power high exponent
  if closed then l ≤ a && b ≤ h else l < a && b < h

/-- The shortest decimal in the interval of a positive number, of two the nearer. Rounding a single
nine up gives a one of the next place, so that no digit behind the point is a needless zero. -/
def shortestDecimal (mantissa : Nat) (exponent : Int) : Decimal :=
  let quarters := 4 * mantissa
  let e := exponent - 2
  let low := if mantissa = mantissaLimit / 2 ∧ -1074 < exponent then quarters - 1 else quarters - 2
  let high := quarters + 2
  let closed := mantissa % 2 == 0
  let size : Int := (digitCount (raise 10 400 * quarters * raise 2 e / raise 2 (-e)) : Int) - 400
  let candidate (count : Nat) : Option Decimal :=
    let power := size - count
    let floor := quarters * raise 2 e * raise 10 (-power) / (raise 2 (-e) * raise 10 power)
    let below : Decimal := ⟨floor, power⟩
    let above : Decimal := if floor + 1 = 10 then ⟨1, power + 1⟩ else ⟨floor + 1, power⟩
    match below.readsAs low high closed e, above.readsAs low high closed e with
    | true, true =>
      let (twice, v) := commonScale (2 * floor + 1) power (2 * quarters) e
      some (if v < twice then below else above)
    | true, false => some below
    | false, true => some above
    | false, false => none
  ((List.range 17).findSome? fun i => candidate (i + 1)).getD ⟨mantissa, 0⟩

/-- A decimal without exponent and with at least one digit on each side of the point. -/
def Decimal.text (d : Decimal) : Text :=
  let digits := Nat.toDigits 10 d.digits
  let places := (-d.power).toNat
  if 0 ≤ d.power then digits ++ List.replicate d.power.toNat '0' ++ ['.', '0']
  else if places < digits.length then
    digits.take (digits.length - places) ++ '.' :: digits.drop (digits.length - places)
  else ['0', '.'] ++ List.replicate (places - digits.length) '0' ++ digits

def Binary64.text : Binary64 → Text
  | .nan => "NaN".toList
  | .infinite negative => (if negative then ['-'] else []) ++ "inf".toList
  | .finite negative mantissa exponent =>
    (if negative then ['-'] else []) ++
      if mantissa = 0 then "0.0".toList else (shortestDecimal mantissa exponent).text

end Wiring
