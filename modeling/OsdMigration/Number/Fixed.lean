import OsdMigration.Number.Binary64

set_option autoImplicit false

/-! # Numbers with a fixed count of decimals

A number is written with all its digits before the point and a fixed count of digits after it.
The last digit is rounded from the exact value, a half going to the even neighbour, and a
negative number keeps its sign even where only zeros are left.
-/

namespace OsdMigration.Number

/-- `n` with zeros in front up to the given width. -/
def padded (width n : Nat) : String :=
  let digits := Nat.toDigits 10 n
  String.ofList (List.replicate (width - digits.length) '0' ++ digits)

/-- The sign and digits of `± num / den` with `places` decimals. -/
def fixedRatio (negative : Bool) (num den places : Nat) : String :=
  let units := roundDiv (num * Nat.pow 10 places) den
  (if negative then "-" else "")
    ++ toString (units / Nat.pow 10 places) ++ "." ++ padded places (units % Nat.pow 10 places)

/-- The number with `places` decimals. -/
def Binary64.fixed (x : Binary64) (places : Nat) : String :=
  fixedRatio x.negative x.numerator x.denominator places

/-- A hundredfold of the number, as a double precision number, with six decimals. A product
beyond the largest finite number is infinite and written `inf`. -/
def Binary64.percent (x : Binary64) : String :=
  match x.scale? 100 with
  | some y => y.fixed 6
  | none => if x.negative then "-inf" else "inf"

end OsdMigration.Number
