import OsdMigration.NameMap
import OsdMigration.Number.Binary64

set_option autoImplicit false

/-! # The status of a Ceph cluster

What the monitors report about the cluster: its health and the checks raised, how many OSDs are
known and up, the placement groups, and the long-running tasks. Ceph leaves out whatever is zero,
so every part has a value that stands for its absence.
-/

namespace OsdMigration.Ceph

open Number (Binary64)

/-- The overall health. A word other than the three documented ones is kept as it is. -/
inductive HealthStatus where
  | ok
  | warn
  | err
  | other (word : String)
deriving DecidableEq, Repr

namespace HealthStatus

/-- The word Ceph uses. -/
def word : HealthStatus → String
  | .ok => "HEALTH_OK"
  | .warn => "HEALTH_WARN"
  | .err => "HEALTH_ERR"
  | .other w => w

/-- The health a word stands for. -/
def ofWord (w : String) : HealthStatus :=
  if w = "HEALTH_OK" then .ok
  else if w = "HEALTH_WARN" then .warn
  else if w = "HEALTH_ERR" then .err
  else .other w

/-- The health where none is reported. -/
def unknown : HealthStatus := .other "HEALTH_UNKNOWN"

/-- Every word is shown as it came. -/
@[simp] theorem word_ofWord (w : String) : (ofWord w).word = w := by
  unfold ofWord
  split
  · rename_i h; exact h.symm
  · split
    · rename_i h; exact h.symm
    · split
      · rename_i h; exact h.symm
      · rfl

end HealthStatus

/-- A health check raised by the cluster. -/
structure HealthCheck where
  severity : String
  message : String
deriving DecidableEq, Repr

/-- The overall health with the checks behind it, by the name of the check. -/
structure Health where
  status : HealthStatus
  checks : NameMap HealthCheck
deriving DecidableEq, Repr

/-- How many OSDs the cluster knows, and how many are up, in, or being remapped. -/
structure OsdCounts where
  epoch : UInt64
  total : UInt32
  up : UInt32
  inside : UInt32
  remapped : UInt32
deriving DecidableEq, Repr

/-- How many placement groups are in one state. -/
structure StateCount where
  state : String
  count : UInt32
deriving DecidableEq, Repr

/-- The placement groups: counts by state, totals, the fractions that are not where they belong,
and the rate at which data is being recovered, in bytes per second. -/
structure PlacementGroups where
  byState : List StateCount
  total : UInt32
  pools : UInt32
  objects : UInt64
  inactive : Binary64
  degraded : Binary64
  misplaced : Binary64
  recovering : UInt64
deriving DecidableEq, Repr

/-- A task of the cluster and the fraction of it that is done. -/
structure Task where
  message : String
  progress : Binary64
deriving DecidableEq, Repr

/-- A snapshot of the cluster. -/
structure Status where
  fsid : String
  health : Health
  osds : OsdCounts
  groups : PlacementGroups
  tasks : NameMap Task
deriving DecidableEq, Repr

/-! ## Absent parts -/

/-- The health of a report without any. -/
def Health.absent : Health := ⟨.unknown, .empty⟩

/-- The counts of a report without any. -/
def OsdCounts.absent : OsdCounts := ⟨0, 0, 0, 0, 0⟩

/-- The placement groups of a report without any. -/
def PlacementGroups.absent : PlacementGroups :=
  ⟨[], 0, 0, 0, Binary64.zero, Binary64.zero, Binary64.zero, 0⟩

/-! ## Questions -/

/-- What a build of the program does with a sum beyond the 32-bit range. -/
inductive Arithmetic where
  /-- It crashes. -/
  | checked
  /-- It goes on with the sum modulo the range. -/
  | wrapping
deriving DecidableEq, Repr

/-- The message of the crash. -/
def Arithmetic.overflow : String := "attempt to add with overflow"

/-- The sum of two numbers. -/
def Arithmetic.add : Arithmetic → UInt32 → UInt32 → Except String UInt32
  | .checked, a, b =>
    if a.toNat + b.toNat < UInt32.size then .ok (a + b) else .error Arithmetic.overflow
  | .wrapping, a, b => .ok (a + b)

namespace PlacementGroups

/-- How many placement groups are in the state, over all entries that name it. -/
def inState (arithmetic : Arithmetic) (g : PlacementGroups) (state : String) :
    Except String UInt32 :=
  (g.byState.filter fun s => s.state = state).foldlM (fun n s => arithmetic.add n s.count) 0

/-- Whether some fraction of the placement groups is not where it belongs. -/
def unclean (g : PlacementGroups) : Bool :=
  !g.inactive.isZero || !g.degraded.isZero || !g.misplaced.isZero

end PlacementGroups

/-- Whether an OSD is down: fewer are up than the cluster knows. -/
def OsdCounts.someDown (c : OsdCounts) : Bool := c.up < c.total

end OsdMigration.Ceph
