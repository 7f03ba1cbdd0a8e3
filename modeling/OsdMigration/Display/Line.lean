import OsdMigration.Procedure.Basic

set_option autoImplicit false

/-! # Lines

Messages to the user come as lines. A passing line takes the place of the passing line before it,
and an empty one says nothing.
-/

namespace OsdMigration

/-- A line for the user. -/
inductive Line where
  | lasting (text : String)
  | passing (text : String)
deriving DecidableEq, Repr

/-- The line of a message that is told at a time of day. -/
def Message.toLine (timeOfDay : String) : Message → Line
  | .line text => .lasting text
  | .stamped text => .lasting (text ++ timeOfDay)
  | .passing text => .passing text

end OsdMigration
