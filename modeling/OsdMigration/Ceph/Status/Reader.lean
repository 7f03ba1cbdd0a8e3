import OsdMigration.Ceph.Status
import OsdMigration.Json.Parser
import OsdMigration.Json.Record

set_option autoImplicit false

/-! # Reading a status report

The report is one JSON document. Members that are not asked for are skipped, whatever they hold;
a member that is asked for and has the wrong form makes the report unreadable, and only its
absence is replaced by a default.
-/

namespace OsdMigration.Ceph

open Json (record? field? required? text? uint32? uint64? binary64?)
open Number (Binary64)

/-- The summary of a check: its message. -/
def checkSummary? (j : Json) : Option String := do
  match ← record? ["message"] j with
  | [message] => field? message text? ""
  | _ => none

/-- A check. -/
def HealthCheck.ofJson? (j : Json) : Option HealthCheck := do
  match ← record? ["severity", "summary"] j with
  | [severity, summary] =>
    pure ⟨← field? severity text? "", ← field? summary checkSummary? ""⟩
  | _ => none

/-- The health. -/
def Health.ofJson? (j : Json) : Option Health := do
  match ← record? ["status", "checks"] j with
  | [status, checks] =>
    pure ⟨← field? status (fun w => (text? w).map HealthStatus.ofWord) .unknown,
      ← field? checks (Json.map? HealthCheck.ofJson?) .empty⟩
  | _ => none

/-- The counts themselves. -/
def OsdCounts.ofJson? (j : Json) : Option OsdCounts := do
  match ← record? ["epoch", "num_osds", "num_up_osds", "num_in_osds", "num_remapped_pgs"] j with
  | [epoch, total, up, inside, remapped] =>
    pure ⟨← field? epoch uint64? 0, ← field? total uint32? 0, ← field? up uint32? 0,
      ← field? inside uint32? 0, ← field? remapped uint32? 0⟩
  | _ => none

/-- The counts, which stand one level deeper than the other parts of the report. -/
def OsdCounts.ofWrapper? (j : Json) : Option OsdCounts := do
  match ← record? ["osdmap"] j with
  | [counts] => field? counts OsdCounts.ofJson? .absent
  | _ => none

/-- An entry of the counts by state; both parts must be there. -/
def StateCount.ofJson? (j : Json) : Option StateCount := do
  match ← record? ["state_name", "count"] j with
  | [state, count] => pure ⟨← required? state text?, ← required? count uint32?⟩
  | _ => none

/-- The placement groups. -/
def PlacementGroups.ofJson? (j : Json) : Option PlacementGroups := do
  match ← record? ["pgs_by_state", "num_pgs", "num_pools", "num_objects", "inactive_pgs_ratio",
    "degraded_ratio", "misplaced_ratio", "recovering_bytes_per_sec"] j with
  | [byState, total, pools, objects, inactive, degraded, misplaced, recovering] =>
    pure ⟨← field? byState (Json.list? StateCount.ofJson?) [], ← field? total uint32? 0,
      ← field? pools uint32? 0, ← field? objects uint64? 0,
      ← field? inactive binary64? .zero, ← field? degraded binary64? .zero,
      ← field? misplaced binary64? .zero, ← field? recovering uint64? 0⟩
  | _ => none

/-- A task. -/
def Task.ofJson? (j : Json) : Option Task := do
  match ← record? ["message", "progress"] j with
  | [message, progress] =>
    pure ⟨← field? message text? "", ← field? progress binary64? .zero⟩
  | _ => none

namespace Status

/-- The report as a value. -/
def ofJson? (j : Json) : Option Status := do
  match ← record? ["fsid", "health", "osdmap", "pgmap", "progress_events"] j with
  | [fsid, health, osds, groups, tasks] =>
    pure ⟨← field? fsid text? "", ← field? health Health.ofJson? .absent,
      ← field? osds OsdCounts.ofWrapper? .absent, ← field? groups PlacementGroups.ofJson? .absent,
      ← field? tasks (Json.map? Task.ofJson?) .empty⟩
  | _ => none

/-- The report of a text. -/
def parse? (text : String) : Option Status := (Json.parse? text).bind ofJson?

end Status

end OsdMigration.Ceph
