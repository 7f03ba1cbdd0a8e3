import OsdMigration.Number.Binary64

set_option autoImplicit false

/-! # Reading decimals

A decimal is read into a whole number of 64 bits and a power of ten, and the two are put together
in double precision arithmetic. Digits that have no room in the whole number are dropped. Every
operation rounds, so the result need not be the number nearest to the decimal: its last bits can
differ, and a decimal close above zero can be read as zero.
-/

namespace OsdMigration.Number.Binary64

/-- The exponent of the largest power of ten that the format has. -/
def maxPower : Nat := 308

/-- The largest exponent that can be written. -/
def maxWritten : Nat := 2147483647

/-- The power of ten with the exponent, rounded to the format. -/
def powerOfTen? (n : Nat) : Option Binary64 :=
  if n ≤ maxPower then ofRatio? false (Nat.pow 10 n) 1 else none

/-- The product, rounded to the format. -/
def mul? (x y : Binary64) : Option Binary64 :=
  ofRatio? (x.negative != y.negative) (x.numerator * y.numerator) (x.denominator * y.denominator)

/-- The quotient by a number other than zero, rounded to the format. -/
def div? (x y : Binary64) : Option Binary64 :=
  ofRatio? (x.negative != y.negative) (x.numerator * y.denominator) (x.denominator * y.numerator)

/-- The quotient by the largest power of ten, taken several times. Zero stays as it is. -/
def divRepeatedly? (x : Binary64) : Nat → Option Binary64
  | 0 => some x
  | n + 1 => if x.isZero then some x else do (← x.div? (← powerOfTen? maxPower)).divRepeatedly? n

/-- The product with the power of ten with the exponent. A smaller power than the format has is
divided by in steps; with a larger one only zero has a product. -/
def shift? (x : Binary64) : Int → Option Binary64
  | .ofNat n => if x.isZero then some x else do x.mul? (← powerOfTen? n)
  | .negSucc n => do (← x.divRepeatedly? (n / maxPower)).div? (← powerOfTen? (n % maxPower + 1))

/-- Appends digits to a number as long as it stays in 64 bits, and counts those appended. -/
def appendDigits (n : Nat) : List Char → Nat × Nat
  | [] => (n, 0)
  | c :: rest =>
    let next := n * 10 + (c.toNat - '0'.toNat)
    if next < UInt64.size then
      let (m, count) := appendDigits next rest
      (m, count + 1)
    else (n, 0)

/-- The number of a decimal: the digits in front of the point and behind it, and the exponent. There
is none if the decimal, or only its exponent, is too large; such an exponent under zero, or of zero,
makes it zero. -/
def ofDecimal? (negative : Bool) (whole fraction : List Char) (exponent : Int) :
    Option Binary64 := do
  let (front, kept) := appendDigits 0 whole
  let (significand, behind) := appendDigits front fraction
  -- each digit of the whole part that was dropped counts tenfold
  let power : Int := (whole.length : Int) - kept - behind
  let magnitude ←
    if exponent.natAbs ≤ maxWritten then do
      (← ofRatio? false significand 1).shift? (power + exponent)
    else if 0 < exponent ∧ significand ≠ 0 then none
    else some zero
  pure { magnitude with negative }

end OsdMigration.Number.Binary64
