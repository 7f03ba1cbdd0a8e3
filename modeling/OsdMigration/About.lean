set_option autoImplicit false

/-! # The program

The name and the version under which the program is known.
-/

namespace OsdMigration

/-- The name of the program. -/
def programName : String := "rook-migrate"

/-- The version of the program. -/
def programVersion : String := "0.2.0"

end OsdMigration
