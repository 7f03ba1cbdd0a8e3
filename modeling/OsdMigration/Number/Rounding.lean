set_option autoImplicit false

/-! # Rounding a quotient

A quotient of natural numbers is rounded to the nearest natural number; a quotient halfway
between two goes to the even one.
-/

namespace OsdMigration.Number

/-- The natural number nearest to `n / d`, the even one of two equally near. -/
def roundDiv (n d : Nat) : Nat :=
  let q := n / d
  let r := 2 * (n % d)
  if r < d then q
  else if d < r then q + 1
  else if q % 2 = 0 then q
  else q + 1

end OsdMigration.Number
