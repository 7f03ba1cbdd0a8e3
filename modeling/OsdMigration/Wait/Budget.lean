import OsdMigration.Settings

set_option autoImplicit false

/-! # Patience

A wait puts up with failures of a check as long as trying again may help and not too many of them
come in a row. A budget counts the failures since the last success.
-/

namespace OsdMigration

/-- A check, how many failures of it in a row end the wait, and how many there have been. -/
structure Budget where
  operation : String
  limit : Nat
  inRow : Nat := 0
deriving DecidableEq, Repr

namespace Budget

/-- The budget after the check succeeded. -/
def succeed (b : Budget) : Budget := { b with inRow := 0 }

/-- The budget after a failure of the check, and whether the wait goes on. A failure that trying
again cannot mend ends it at once and is not counted. -/
def fail (b : Budget) (f : Failure) : Budget × Attempt Unit :=
  if !f.isRetryable then (b, .error f)
  else
    -- the failure that fills the budget is counted too
    let b := { b with inRow := b.inRow + 1 }
    if b.limit ≤ b.inRow then (b, .error (.repeated b.operation b.inRow f)) else (b, .ok ())

/-- The budget after a failure of the check, if the wait goes on. -/
def spend (b : Budget) (f : Failure) : Attempt Budget :=
  match b.fail f with
  | (b, .ok ()) => .ok b
  | (_, .error f) => .error f

end Budget

/-- The patience of a wait with a check. -/
def Settings.budget (s : Settings) (operation : String) : Budget :=
  ⟨operation, s.patience.toNat, 0⟩

end OsdMigration
