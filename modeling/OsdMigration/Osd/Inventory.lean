import OsdMigration.Osd.Device
import OsdMigration.Procedure.Basic
import OsdMigration.Settings

set_option autoImplicit false

/-! # The OSDs of a cluster

What the listings of pods and nodes say about the OSDs that are running.
-/

namespace OsdMigration.Osd

open Cluster (Pod)

/-- The OSDs of a listing; the first pod that is none makes it fail. -/
def ofPods (s : Settings) (pods : List Pod) : Attempt (List Device) :=
  pods.mapM (Device.ofPod s.osdLabel s.hostpathMount)

/-- The numbers of the OSDs on host directories, in their order. -/
def onHostpath (devices : List Device) : List UInt32 :=
  (devices.filter fun d => d.backing = .hostpath).map Device.osd

/-- The running OSDs. -/
def inventory (s : Settings) : Job (List Device) := do
  let pods ← (Job.ask (.listPods s.space s.osdSelector)).during "unable to list OSD pods"
  Job.ofAttempt (ofPods s pods)

/-- How many hosts run OSDs of either kind. -/
def countHostsNow (s : Settings) : Job HostCounts := do
  let devices ← inventory s
  pure (countHosts devices)

/-- The numbers of the OSDs on host directories. -/
def hostpathOsds (s : Settings) : Job (List UInt32) := do
  let devices ← inventory s
  pure (onHostpath devices)

/-- How many nodes there are. -/
def countNodes : Job Nat := do
  let nodes ← (Job.ask .listNodes).during "unable to list nodes"
  pure nodes.length

end OsdMigration.Osd
