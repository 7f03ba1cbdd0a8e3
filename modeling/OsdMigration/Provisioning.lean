import OsdMigration.Cluster.Patches
import OsdMigration.Osd.Inventory

set_option autoImplicit false

/-! # Provisioning of block devices

The cluster object is changed to use every empty block device instead of host directories, and the
operator is restarted so that it notices at once.
-/

namespace OsdMigration.Provisioning

open Cluster (Request)

/-- A change of the cluster object. -/
def change (s : Settings) (patch : Json.Patch) : Request := .patchCluster s.space s.cluster patch

/-- Lets the cluster use block devices and takes its directories away. That the directories cannot
be taken away is only reported, since they may be gone already. -/
def enableBlock (s : Settings) : Job Unit := do
  (Job.ask (change s Cluster.useAllDevicesPatch)).during "unable to patch cephcluster"
  let dropped ← Job.ofProcedure (Job.ask (change s Cluster.dropDirectoriesPatch)).attempt
  match dropped with
  | .ok () => pure ()
  | .error f =>
    Job.report ("Got error " ++ f.message
      ++ " when disabling hostpath storage, but continuing anyways")

/-- Restarts the operator, unless some OSD is on a block device already. -/
def nudgeOperator (s : Settings) : Job Unit := do
  let counts ← Osd.countHostsNow s
  if 0 < counts.block then pure ()
  else
    Job.report ("Restarting the rook-ceph operator to ensure modified settings take effect "
      ++ "immediately")
    (Job.ask (.deletePods s.space s.operatorSelector)).during
      "unable to restart rook-ceph-operator"

end OsdMigration.Provisioning
