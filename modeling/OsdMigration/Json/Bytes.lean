import OsdMigration.Json.Parser
import OsdMigration.Text.Utf8

set_option autoImplicit false

/-! # Reading JSON from bytes

Bytes that are no characters may stand in texts only, and such a text cannot be read. This is the
same as with a text whose escapes name no characters, so the bytes are taken for such an escape.
-/

namespace OsdMigration.Json

/-- An escape that names no character, whatever stands around it. -/
def nameless : List Char := "\\ud800\\ud800".toList

/-- The characters with an escape in the place of each one that is missing. No escape can be
escaped. -/
def spell? : List (Option Char) → Option (List Char)
  | [] => some []
  | some '\\' :: some c :: rest => (spell? rest).map fun cs => '\\' :: c :: cs
  | some '\\' :: none :: _ => none
  | some c :: rest => (spell? rest).map (c :: ·)
  | none :: rest => (spell? rest).map (nameless ++ ·)

/-- The value of a JSON text in bytes. -/
def ofBytes? (bytes : List UInt8) : Option Json := do
  let text ← spell? (Text.Utf8.parts bytes)
  parse? (String.ofList text)

end OsdMigration.Json
