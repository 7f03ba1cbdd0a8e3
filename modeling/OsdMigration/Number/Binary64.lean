import OsdMigration.Number.Rounding

set_option autoImplicit false

/-! # Double precision numbers

The finite numbers of the IEEE 754 format binary64, held exactly as `± m · 2 ^ e`. A ratio of
natural numbers is brought into the format by rounding to the nearest number, ties to the even
mantissa; a ratio beyond the largest finite number has no place in it.
-/

namespace OsdMigration.Number

/-- A finite double precision number `± mantissa · 2 ^ exponent`. Zero carries a sign. -/
structure Binary64 where
  negative : Bool
  mantissa : Nat
  exponent : Int
deriving DecidableEq, Repr

namespace Binary64

/-- The exponent of the smallest positive number, and of every number below the normal range. -/
def minExponent : Int := -1074

/-- The exponent of the largest finite numbers. -/
def maxExponent : Int := 971

/-- The bit of a normal number that the interchange format leaves out, `2 ^ 52`. The mantissa of
a normal number is not below it. -/
def hiddenBit : Nat := 4503599627370496

/-- The mantissa of every number is below this, `2 ^ 53`. -/
def mantissaBound : Nat := 9007199254740992

/-- The bit of the sign, `2 ^ 63`. -/
def signBit : Nat := 9223372036854775808

/-- Positive zero. -/
def zero : Binary64 := ⟨false, 0, minExponent⟩

instance : Inhabited Binary64 := ⟨zero⟩

/-- Whether the number is zero, of either sign. -/
def isZero (x : Binary64) : Bool := x.mantissa == 0

/-- The rounded quotient of `num / den` and `2 ^ e`. -/
def mantissaAt (num den : Nat) (e : Int) : Nat :=
  if 0 ≤ e then roundDiv num (den * Nat.pow 2 e.toNat)
  else roundDiv (num * Nat.pow 2 (-e).toNat) den

/-- The exponent at which the mantissa of `num / den` has 53 bits, and never less than the
smallest one. -/
def exponentFor (num den : Nat) : Int :=
  let guess : Int := (num.log2 : Int) - den.log2 - 53
  -- the quotient at the guess has 53 or 54 bits
  let full :=
    if 0 ≤ guess then num / (den * Nat.pow 2 guess.toNat)
    else num * Nat.pow 2 (-guess).toNat / den
  max minExponent (if full < mantissaBound then guess else guess + 1)

/-- The number nearest to `± num / den`, or nothing when that lies beyond the largest one. -/
def ofRatio? (negative : Bool) (num den : Nat) : Option Binary64 :=
  if num = 0 then some ⟨negative, 0, minExponent⟩
  else
    let e := exponentFor num den
    let m := mantissaAt num den e
    -- rounding up may carry into a 54th bit
    let x : Binary64 := if m < mantissaBound then ⟨negative, m, e⟩ else ⟨negative, hiddenBit, e + 1⟩
    if x.exponent ≤ maxExponent then some x else none

/-- The numerator of the exact value. -/
def numerator (x : Binary64) : Nat := x.mantissa * Nat.pow 2 x.exponent.toNat

/-- The denominator of the exact value, a power of two. -/
def denominator (x : Binary64) : Nat := Nat.pow 2 (-x.exponent).toNat

/-- The product with a natural number, rounded to the format. -/
def scale? (x : Binary64) (k : Nat) : Option Binary64 :=
  ofRatio? x.negative (x.numerator * k) x.denominator

/-- The 64 bits of the interchange format. -/
def toBits (x : Binary64) : UInt64 :=
  let magnitude : Nat :=
    if x.mantissa < hiddenBit then x.mantissa
    else (x.exponent + 1075).toNat * hiddenBit + (x.mantissa - hiddenBit)
  UInt64.ofNat (magnitude + if x.negative then signBit else 0)

end Binary64

end OsdMigration.Number
