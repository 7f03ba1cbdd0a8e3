import OsdMigration.Ceph.Status
import OsdMigration.Number.Fixed
import OsdMigration.Text.Blank
import OsdMigration.Text.Quoted

set_option autoImplicit false

/-! # Judging a status report

A cluster is healthy when the monitors say so, nothing is being recovered and every placement
group is where it belongs. `problems` lists each condition that is violated; the cluster is
healthy when the list is empty. `summary` says in one line what the cluster is busy with.
-/

namespace OsdMigration.Ceph.Status

/-- The three fractions in words, as percentages. -/
def fractions (g : PlacementGroups) : String :=
  g.inactive.percent ++ "% of PGs are inactive, " ++ g.degraded.percent
    ++ "% are degraded, and " ++ g.misplaced.percent ++ "% are misplaced"

/-- The problem with the overall health. -/
def healthProblem? (s : Status) : Option String :=
  if s.health.status = .ok then none
  else some ("health is " ++ s.health.status.word ++ " not HEALTH_OK")

/-- The problem that data is being recovered. -/
def recoveryProblem? (s : Status) : Option String :=
  if s.groups.recovering = 0 then none
  else some (toString s.groups.recovering ++ " bytes are being recovered per second, 0 desired")

/-- The problem that placement groups are not where they belong. -/
def placementProblem? (s : Status) : Option String :=
  if s.groups.unclean then some (fractions s.groups ++ ", 0 required for all") else none

/-- Every violated condition, in a fixed order. -/
def problems (s : Status) : List String :=
  s.healthProblem?.toList ++ s.recoveryProblem?.toList ++ s.placementProblem?.toList

/-- Whether the cluster is healthy, and if not, every reason why. -/
def verdict (s : Status) : Bool × String :=
  (s.problems.isEmpty, String.intercalate " and " s.problems)

/-! ## The summary -/

/-- The start of the message of the task that Ceph keeps when nothing is happening. -/
def idleTask : String := "Global Recovery Event"

/-- The tasks that mean work, in the order of their names. -/
def activeTasks (s : Status) : List Task :=
  s.tasks.values.filter fun t => !idleTask.isPrefixOf t.message

/-- The message of a task on one line: line feeds as spaces, no blanks around it. -/
def taskTitle (t : Task) : String :=
  Text.trim (String.ofList (t.message.toList.map fun c => if c = '\n' then ' ' else c))

/-- The messages of the checks that have one, in the order of the names of the checks. -/
def checkMessages (s : Status) : List String :=
  (s.health.checks.values.map HealthCheck.message).filter fun m => m ≠ ""

/-- What the cluster is busy with: its first task, or the state of its placement groups, or the
checks that were raised; nothing if there is nothing to say. -/
def summary (s : Status) : String :=
  match s.activeTasks with
  | first :: rest =>
    toString (rest.length + 1) ++ " tasks in progress, first task "
      ++ Text.quote (taskTitle first) ++ " is " ++ first.progress.percent ++ "% complete"
  | [] =>
    if s.groups.unclean ∨ s.groups.recovering ≠ 0 then
      fractions s.groups ++ "; recovering at " ++ toString s.groups.recovering ++ " B/sec"
    else if s.health.status = .ok then ""
    else if s.checkMessages = [] then "health is " ++ s.health.status.word
    else
      "health is " ++ s.health.status.word ++ ": " ++ String.intercalate ", " s.checkMessages

end OsdMigration.Ceph.Status
