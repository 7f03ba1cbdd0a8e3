set_option autoImplicit false

/-! # Numerals

Reading whole numbers written in ASCII digits. A sign may stand in front, at most one; leading
zeros are allowed, blanks and separators are not. Digits in base sixteen are read one by one.
-/

namespace OsdMigration.Text

/-- The value of one ASCII digit. -/
def digit? (c : Char) : Option Nat :=
  if '0' ≤ c ∧ c ≤ '9' then some (c.toNat - '0'.toNat) else none

/-- The value of a run of ASCII digits continuing the number `acc`. -/
def digitsFrom? (acc : Nat) : List Char → Option Nat
  | [] => some acc
  | c :: cs => (digit? c).bind fun d => digitsFrom? (acc * 10 + d) cs

/-- The value of a non-empty run of ASCII digits. -/
def digits? : List Char → Option Nat
  | [] => none
  | c :: cs => digitsFrom? 0 (c :: cs)

/-- A natural number, with an optional plus sign. -/
def natural? : List Char → Option Nat
  | '+' :: cs => digits? cs
  | cs => digits? cs

/-- An integer, with an optional sign. -/
def integer? : List Char → Option Int
  | '-' :: cs => (digits? cs).map fun n => -(n : Int)
  | cs => (natural? cs).map fun n => (n : Int)

/-- A natural number of the 32-bit unsigned range. -/
def uint32? (s : String) : Option UInt32 :=
  (natural? s.toList).bind fun n => if n < UInt32.size then some (UInt32.ofNat n) else none

/-- An integer of the 32-bit signed range. -/
def int32? (s : String) : Option Int :=
  (integer? s.toList).bind fun i => if -2147483648 ≤ i ∧ i ≤ 2147483647 then some i else none

/-- The value of one digit in base sixteen, in capitals or not. -/
def hexDigit? (c : Char) : Option Nat :=
  if '0' ≤ c ∧ c ≤ '9' then some (c.toNat - '0'.toNat)
  else if 'a' ≤ c ∧ c ≤ 'f' then some (c.toNat - 'a'.toNat + 10)
  else if 'A' ≤ c ∧ c ≤ 'F' then some (c.toNat - 'A'.toNat + 10)
  else none

end OsdMigration.Text
