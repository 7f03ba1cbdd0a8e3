import OsdMigration.Number.Decimal
import OsdMigration.Number.Shortest

set_option autoImplicit false

/-! # JSON values

A JSON document as it was written: members of an object stand in their order, and a repeated
name stands twice. What a reader makes of that is its own decision (`Json/Record.lean`).
-/

namespace OsdMigration

open Number (Binary64)

/-- A JSON number. A numeral without fraction and exponent is a whole number if it fits into 64
bits, signed or unsigned; every other numeral, `-0` included, is read as a double precision number,
and one beyond the largest of those has no value. -/
inductive Json.Number where
  | whole (i : Int)
  | real (x : Binary64)
  | huge
deriving DecidableEq, Repr

/-- A JSON value. A text whose escapes name one half of a surrogate pair only, or an object with
such a text for a name, is well-formed but has no value: it is `unreadable`. -/
inductive Json where
  | null
  | bool (b : Bool)
  | num (n : Json.Number)
  | str (s : String)
  | arr (items : List Json)
  | obj (members : List (String × Json))
  | unreadable
deriving Repr

namespace Json

instance : Inhabited Json := ⟨.null⟩

/-- The number of a numeral: the digits in front of the point, those behind it if there is a point,
and the exponent if one is written. -/
def Number.ofNumeral (negative : Bool) (whole : List Char) (fraction : Option (List Char))
    (exponent : Option Int) : Number :=
  let magnitude := Nat.ofDigitChars 10 whole 0
  let value : Int := if negative then -(magnitude : Int) else magnitude
  if fraction = none ∧ exponent = none
      ∧ -9223372036854775808 ≤ value ∧ value ≤ 18446744073709551615
      ∧ ¬(negative = true ∧ magnitude = 0) then
    .whole value
  else
    match Binary64.ofDecimal? negative whole (fraction.getD []) (exponent.getD 0) with
    | some x => .real x
    | none => .huge

/-- The number as a double precision number. -/
def Number.toBinary64? : Number → Option Binary64
  | .whole i => Binary64.ofRatio? (decide (i < 0)) i.natAbs 1
  | .real x => some x
  | .huge => none

/-- Whether two numbers count as equal: whole numbers by value, others as double precision
numbers, where the two zeros are equal; a whole number never equals one of the others. -/
def Number.same : Number → Number → Bool
  | .whole i, .whole j => i == j
  | .real x, .real y => x == y || (x.isZero && y.isZero)
  | _, _ => false

/-- A whole number as a JSON value. -/
def ofInt (i : Int) : Json := .num (.whole i)

/-- A natural number as a JSON value. -/
def ofNat (n : Nat) : Json := .num (.whole n)

/-- The value of a member, the last one if the name is repeated. -/
def member? (members : List (String × Json)) (name : String) : Option Json :=
  members.reverse.lookup name

/-- The value at a name of an object. -/
def get? (j : Json) (name : String) : Option Json :=
  match j with
  | .obj members => member? members name
  | _ => none

end Json

end OsdMigration
