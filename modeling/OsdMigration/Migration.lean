import OsdMigration.Provisioning
import OsdMigration.Removal
import OsdMigration.Wait.BlockHosts

set_option autoImplicit false

/-! # The migration

A cluster is migrated off host directories: once it is healthy and has OSDs on block devices on
enough hosts, every OSD on a host directory is removed, one at a time. Any failure ends the
migration where it is; another run goes on from the OSDs that are left.
-/

namespace OsdMigration

namespace Migration

/-- What a migration that succeeded did. -/
inductive Outcome where
  /-- No OSD was on a host directory. -/
  | notRequired
  /-- These OSDs were removed, in this order. -/
  | removed (osds : List UInt32)
deriving DecidableEq, Repr

/-- Removes OSDs one at a time. -/
def removeAll (c : Context) (osds : List UInt32) : Job Unit :=
  osds.forM fun osd =>
    (removeOsd c osd).during ("failed to safely remove OSD " ++ toString osd)

/-- Makes sure that the cluster is healthy before anything is touched. -/
def prepare (c : Context) : Job Unit := do
  Job.report ("Adding blockdevice-based Rook OSDs and removing all Hostpath-based OSDs to allow "
    ++ "upgrading Rook")
  (Toolbox.ensureReady c).during "unable to start rook-ceph-tools before starting migration"
  (awaitHealth c (some (Settings.seconds c.settings.healthTimeout))).during
    ("rook failed to become healthy within " ++ toString c.settings.healthTimeout
      ++ "s, aborting migration")

/-- Brings OSDs on block devices into the cluster. -/
def provision (c : Context) : Job Unit := do
  Job.report "Disabling directory storage and enabling block OSDs"
  (Provisioning.enableBlock c.settings).during "unable to enable ceph block devices"
  (Provisioning.nudgeOperator c.settings).during
    "failed to restart rook-ceph operator after patching ceph spec"
  Job.report "Waiting for required block device OSDs to be added to the cluster"
  (awaitBlockHosts c).during "failed to wait for block device OSDs to be added"

/-- Removes every OSD on a host directory, in the order of their numbers. -/
def drain (c : Context) : Job (List UInt32) := do
  Job.report "Determining the list of hostpath OSDs to migrate"
  -- listed anew: OSDs may have come and gone while block devices were waited for
  let found ← (Osd.hostpathOsds c.settings).during "failed to get the current list of OSDs"
  let osds := found.mergeSort
  Job.report ("Removing hostpath OSDs " ++ String.intercalate ", " (osds.map Ceph.osdName)
    ++ " from the cluster")
  removeAll c osds
  pure osds

end Migration

open Migration in
/-- Migrates the cluster. -/
def migrate (c : Context) : Job Migration.Outcome := do
  prepare c
  Job.report ("Rook is currently healthy, checking if a migration from directory-based storage "
    ++ "is required")
  let counts ← (Osd.countHostsNow c.settings).during
    "failed to determine how many OSDs needed migration"
  if counts.hostpath = 0 then
    Job.report "No directory OSDs exist, and so no migration is required."
    pure .notRequired
  else
    Job.report (toString counts.hostpath ++ " nodes with directory OSDs exist, and "
      ++ toString counts.block
      ++ " nodes with block-based OSDs. Continuing with migration.")
    provision c
    let osds ← drain c
    Job.report "Migration completed successfully!"
    pure (.removed osds)

end OsdMigration
