import OsdMigration.About
import OsdMigration.Display.Terminal
import OsdMigration.Display.Transcript
import OsdMigration.Migration
import OsdMigration.Rehearsal
import OsdMigration.Settings.Yaml

set_option autoImplicit false

/-! # The command line

What the arguments ask for, and the rehearsal of it on a small cluster in memory: three nodes,
each with an OSD on a host directory and an empty block device.
-/

namespace OsdMigration

/-- What is to be done. -/
inductive Action where
  | migrate
  | checkBlockHosts
  | health
  | awaitHealth (seconds : Option Nat)
deriving DecidableEq, Repr

/-- The arguments. -/
structure Arguments where
  settingsFile : Option String := none
  space : Option String := none
  plain : Bool := false
  action : Action
deriving DecidableEq, Repr

namespace Arguments

/-- How the program is called. -/
def usage : String :=
  "usage: " ++ programName ++ " [--config FILE] [--namespace NAME] [--plain-progress] "
    ++ "hostpath-to-block | has-sufficient-blockdevices | health | wait-for-health [SECONDS]"

/-- The action that the arguments name. -/
def action? : List String → Option Action
  | ["hostpath-to-block"] => some .migrate
  | ["has-sufficient-blockdevices"] => some .checkBlockHosts
  | ["health"] => some .health
  | ["wait-for-health"] => some (.awaitHealth none)
  | ["wait-for-health", seconds] =>
    (Text.natural? seconds.toList).map fun n => .awaitHealth (some n)
  | _ => none

/-- The arguments read. -/
def parse? : List String → Option Arguments
  | "--config" :: file :: rest => (parse? rest).map fun a => { a with settingsFile := some file }
  | "--namespace" :: name :: rest => (parse? rest).map fun a => { a with space := some name }
  | "--plain-progress" :: rest => (parse? rest).map fun a => { a with plain := true }
  | rest => (action? rest).map fun action => { action }

/-- The settings with what the arguments say. -/
def settings (a : Arguments) (fromFile : Settings) : Attempt Settings := do
  let s := { fromFile with space := a.space.getD fromFile.space }
  s.check
  pure s

end Arguments

/-- The cluster that is rehearsed on. -/
def sampleCluster : MiniCluster :=
  ((((MiniCluster.bare.withNodes ["node-a", "node-b", "node-c"]).withToolbox.withOperator
    "rook/ceph:v1.0.4").withOsd 0 "10.0.0.1" true).withOsd 1 "10.0.0.2" true).withOsd 2 "10.0.0.3"
      true |>.withPending [(3, "10.0.0.1"), (4, "10.0.0.2"), (5, "10.0.0.3")]

/-- The action as a job that gives an exit code. -/
def Action.job (c : Context) : Action → Job UInt32
  | .migrate => do
    let _ ← OsdMigration.migrate c
    pure 0
  | .checkBlockHosts => do
    if ← hasEnoughBlockHosts c.settings then
      Job.report "Sufficient block device OSDs are available"
      pure 0
    else
      Job.report "Insufficient block device OSDs are available"
      pure 1
  | .health => do
    match ← Monitor.health c with
    | (true, _) =>
      Job.report "Rook-Ceph is healthy"
      pure 0
    | (false, why) =>
      Job.report ("Rook-Ceph is not healthy: " ++ why)
      pure 1
  | .awaitHealth seconds => do
    OsdMigration.awaitHealth c (seconds.map (· * 1000))
    Job.report "Rook-Ceph is healthy"
    pure 0

/-- What a rehearsal shows, the failure it ends with, and its exit code. -/
structure Showing where
  output : String
  failure : Option String
  exitCode : UInt32

/-- The lines of a rehearsal. Times of day are those of its clock, in milliseconds. -/
def linesOf (seen : List Event) : List Line :=
  seen.filterMap fun
    | .told time m => some (m.toLine (toString time ++ " ms"))
    | _ => none

/-- Rehearses an action. -/
def Action.rehearse (a : Action) (s : Settings) (plain : Bool) : Showing :=
  let (act, _) := Rehearsal.perform { cluster := sampleCluster } none []
    (a.job ⟨s, 1000000⟩).attempt
  let lines := linesOf act.seen
  let output :=
    if plain then
      String.join ((lines.filterMap LogEntry.ofLine?).map fun e =>
        e.level ++ " " ++ e.target ++ ": " ++ e.text ++ "\n")
    else Terminal.writeAll false lines
  match act.ending with
  | .done (.ok code) => ⟨output, none, code⟩
  | .done (.error f) => ⟨output, some f.message, 1⟩
  | .crashed message => ⟨output, some message, 134⟩
  | _ => ⟨output, some "the rehearsal does not come to an end", 1⟩

end OsdMigration
