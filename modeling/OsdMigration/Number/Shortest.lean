import OsdMigration.Number.Binary64

set_option autoImplicit false

/-! # Shortest decimal text

A double precision number is written with the fewest digits that read back as the same number,
and of several such texts with the one nearest to it. Small exponents are written positionally,
always with a point; the others with a mark `e` and the sign of the exponent.
-/

namespace OsdMigration.Number

namespace Binary64

/-- The real numbers that round to a number: a lower and an upper end as numerators over the
common denominator, and whether the ends belong to it. -/
structure Interval where
  low : Nat
  high : Nat
  denominator : Nat
  closed : Bool

/-- The interval of the reals that round to the magnitude of `x`. Below a power of two the
neighbour is only half as far. -/
def interval (x : Binary64) : Interval :=
  let unit := Nat.pow 2 x.exponent.toNat
  -- all ends are quarters of the unit in the last place
  let below := if x.mantissa = hiddenBit ∧ minExponent < x.exponent then 1 else 2
  ⟨(4 * x.mantissa - below) * unit, (4 * x.mantissa + 2) * unit, 4 * x.denominator,
    x.mantissa % 2 = 0⟩

/-- Whether `n · 10 ^ k` lies in the interval. -/
def Interval.holds (i : Interval) (n : Nat) (k : Int) : Bool :=
  let v := n * Nat.pow 10 k.toNat * i.denominator
  let low := i.low * Nat.pow 10 (-k).toNat
  let high := i.high * Nat.pow 10 (-k).toNat
  if i.closed then low ≤ v && v ≤ high else low < v && v < high

/-- The count of digits of the magnitude before the decimal point, negative for numbers with
zeros behind it: the least `p` with `x < 10 ^ p`. -/
def decimalPlace (x : Binary64) : Int :=
  ((Nat.toDigits 10 (x.numerator * Nat.pow 10 400 / x.denominator)).length : Int) - 400

/-- The nearest multiple of `10 ^ k` that reads back as `x`, among the two around it. -/
def candidate? (x : Binary64) (k : Int) : Option Nat :=
  let num := x.numerator * Nat.pow 10 (-k).toNat
  let den := x.denominator * Nat.pow 10 k.toNat
  let down := num / den
  let near := roundDiv num den
  -- the nearer point may lie outside where the interval is lopsided
  let far := if near = down then down + 1 else down
  if x.interval.holds near k then some near
  else if x.interval.holds far k then some far
  else none

/-- Searches the grids of `count`, `count + 1`, … digits; `fuel` bounds the search. -/
def searchDigits (x : Binary64) : (fuel count : Nat) → Nat × Int
  | 0, _ => (x.numerator, 0)
  | fuel + 1, count =>
    let k := x.decimalPlace - count
    match x.candidate? k with
    | some n => (n, k)
    | none => x.searchDigits fuel (count + 1)

/-- The digits `n` and the power `k` with `n · 10 ^ k` the shortest text of the magnitude.
Seventeen digits always suffice. -/
def shortest (x : Binary64) : Nat × Int := x.searchDigits 17 1

/-- The digits without trailing zeros, and the power adjusted to them; `fuel` bounds the count
of zeros. -/
def stripZeros : (fuel n : Nat) → Int → Nat × Int
  | 0, n, k => (n, k)
  | fuel + 1, n, k => if n ≠ 0 ∧ n % 10 = 0 then stripZeros fuel (n / 10) (k + 1) else (n, k)

/-- The text of the magnitude with the digits `n` and the power `k`. A point that falls at most
five zeros before the digits, or within sixteen places, is written out. -/
def layout (n : Nat) (k : Int) : String :=
  let digits := Nat.toDigits 10 n
  let point : Int := digits.length + k
  if 0 ≤ k ∧ point ≤ 16 then
    String.ofList (digits ++ List.replicate k.toNat '0' ++ ['.', '0'])
  else if 0 < point ∧ point ≤ 16 then
    String.ofList (digits.take point.toNat ++ ['.'] ++ digits.drop point.toNat)
  else if -5 < point ∧ point ≤ 0 then
    String.ofList (['0', '.'] ++ List.replicate (-point).toNat '0' ++ digits)
  else
    let tail := digits.drop 1
    String.ofList (digits.take 1 ++ (if tail = [] then [] else '.' :: tail))
      ++ (if point < 1 then "e" else "e+") ++ toString (point - 1)

/-- The shortest text that reads back as the number. -/
def text (x : Binary64) : String :=
  let magnitude :=
    if x.mantissa = 0 then "0.0"
    else
      let (n, k) := x.shortest
      let (n, k) := stripZeros 400 n k
      layout n k
  (if x.negative then "-" else "") ++ magnitude

end Binary64

end OsdMigration.Number
