import OsdMigration.Text.Numeral
import OsdMigration.Text.Split
import OsdMigration.Text.Utf8

set_option autoImplicit false

/-! # Pairs of texts in one line

The form encoding of a list of pairs: an `=` within a pair, an `&` between pairs. In the texts, a
space is a plus sign, and every byte that is no letter or digit of ASCII and none of four marks is
a percent sign with its two digits. A reader is more generous: it takes a percent sign without
digits for itself and a pair without `=` for one with an empty text, and skips empty pairs.
-/

namespace OsdMigration.Text.FormEncoding

/-- Whether a byte stands for itself. -/
def isPlain (b : UInt8) : Bool :=
  let c := Char.ofNat b.toNat
  b < 0x80 && (c.isAlphanum || c = '*' || c = '-' || c = '.' || c = '_')

/-- A digit in base sixteen, in capitals. -/
def hexDigit (n : Nat) : Char := (Nat.digitChar n).toUpper

/-- One byte. -/
def encodeByte (b : UInt8) : List Char :=
  if b = 0x20 then ['+']
  else if isPlain b then [Char.ofNat b.toNat]
  else ['%', hexDigit (b.toNat / 16), hexDigit (b.toNat % 16)]

/-- A text. -/
def encode (s : String) : List Char :=
  (s.toList.flatMap String.utf8EncodeChar).flatMap encodeByte

/-- A pair. -/
def encodePair (p : String × String) : List Char := encode p.1 ++ '=' :: encode p.2

/-- The bytes of an encoded text. -/
def bytes : List Char → List UInt8
  | [] => []
  | '+' :: rest => 0x20 :: bytes rest
  | '%' :: a :: b :: rest =>
    match hexDigit? a, hexDigit? b with
    | some x, some y => UInt8.ofNat (x * 16 + y) :: bytes rest
    | _, _ => 0x25 :: bytes (a :: b :: rest)
  | c :: rest => String.utf8EncodeChar c ++ bytes rest

/-- An encoded text, read. -/
def decode (cs : List Char) : String := Utf8.decodeLossy (bytes cs)

/-- An encoded pair, read. -/
def decodePair (cs : List Char) : String × String :=
  let (name, value) := (cutAt? '=' cs).getD (cs, [])
  (decode name, decode value)

/-- A line of encoded pairs, read. -/
def decodePairs (cs : List Char) : List (String × String) :=
  ((splitAt '&' cs).filter fun part => part ≠ []).map decodePair

end OsdMigration.Text.FormEncoding
