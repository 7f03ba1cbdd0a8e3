import OsdMigration.Settings

set_option autoImplicit false

/-! # What a procedure is given

The settings of the installation, and a bound on the polls of a single wait. The bound is there so
that a wait without a deadline is a finite tree; it is meant to be out of reach.
-/

namespace OsdMigration

/-- The settings, and the most polls of a wait. -/
structure Context where
  settings : Settings
  polls : Nat
deriving Repr

end OsdMigration
