import OsdMigration.Text.CodePointSet

set_option autoImplicit false

/-! # Blank characters

The Unicode property White_Space, and the removal of blanks around a text.
-/

namespace OsdMigration.Text

/-- The code points with the property White_Space. -/
def blanks : CodePointSet := ⟨[
  0x9, 0xe, 0x20, 0x21, 0x85, 0x86, 0xa0, 0xa1, 0x1680, 0x1681, 0x2000, 0x200b, 0x2028, 0x202a,
  0x202f, 0x2030, 0x205f, 0x2060, 0x3000, 0x3001]⟩

/-- Whether the character is white space. -/
def isBlank (c : Char) : Bool := blanks.contains c

/-- The characters without the blanks in front. -/
def dropBlanks (cs : List Char) : List Char := cs.dropWhile isBlank

/-- The text without the blanks at both ends. -/
def trim (s : String) : String :=
  String.ofList (dropBlanks (dropBlanks s.toList).reverse).reverse

end OsdMigration.Text
