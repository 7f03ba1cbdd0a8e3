set_option autoImplicit false

/-! # Sets of code points

A set of code points is given by the increasing list of the code points at which membership
changes: the first bound enters the set, the second leaves it, and so on. This is how the
character classes of the Unicode standard are tabulated here.
-/

namespace OsdMigration.Text

/-- A set of code points, listed by the points where membership changes. -/
structure CodePointSet where
  bounds : List Nat
deriving Repr

namespace CodePointSet

/-- Walks the bounds up to `n`, flipping `inside` at each of them. -/
def parity (n : Nat) : Bool → List Nat → Bool
  | inside, [] => inside
  | inside, b :: bs => if n < b then inside else parity n (!inside) bs

/-- Whether the character belongs to the set. -/
def contains (s : CodePointSet) (c : Char) : Bool :=
  parity c.toNat false s.bounds

end CodePointSet

end OsdMigration.Text
