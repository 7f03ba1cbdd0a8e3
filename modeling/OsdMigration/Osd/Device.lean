import OsdMigration.Cluster.Object
import OsdMigration.Failure
import OsdMigration.Text.Numeral

set_option autoImplicit false

/-! # OSDs and what they store on

An OSD stores its data on a directory of its host or on a block device of its own. Its pod tells:
an OSD whose pod mounts a certain directory is of the first kind.
-/

namespace OsdMigration.Osd

open Cluster (Pod)

/-- What an OSD stores its data on. -/
inductive Backing where
  | hostpath
  | block
deriving DecidableEq, Repr

/-- The word for a backing. -/
def Backing.word : Backing → String
  | .hostpath => "hostpath"
  | .block => "block"

/-- A running OSD: its number, the host it runs on, and its backing. -/
structure Device where
  osd : UInt32
  host : String
  backing : Backing
deriving DecidableEq, Repr

/-- The host of a pod: its address, or else the name of its node. -/
def hostOf (p : Pod) : String :=
  match (p.status.bind fun s => s.hostAddress).filter (· ≠ "") with
  | some address => address
  | none => (p.spec.bind fun s => s.node).getD ""

/-- Whether some container of a pod mounts something at a path. -/
def mounts (p : Pod) (path : String) : Bool :=
  p.spec.any fun s => s.containers.any fun c => (c.mounts.getD []).any fun m => m.path == path

/-- The OSD of a pod whose number stands in a label. -/
def Device.ofPod (label hostpathMount : String) (p : Pod) : Attempt Device :=
  let value := (p.labels.get? label).getD ""
  match Text.uint32? value with
  | some osd => .ok ⟨osd, hostOf p, if mounts p hostpathMount then .hostpath else .block⟩
  | none => .error (.osdLabel (p.metadata.name.getD "") value)

/-- The distinct hosts that run an OSD with the backing. -/
def hosts (backing : Backing) (devices : List Device) : List String :=
  ((devices.filter fun d => d.backing = backing).map Device.host).eraseDups

/-- How many hosts run OSDs of either kind. -/
structure HostCounts where
  hostpath : Nat
  block : Nat
deriving DecidableEq, Repr

/-- The counts of a list of OSDs. -/
def countHosts (devices : List Device) : HostCounts :=
  ⟨(hosts .hostpath devices).length, (hosts .block devices).length⟩

/-- How many hosts with block devices are wanted: one for every node, up to a maximum. -/
def wantedBlockHosts (nodes maximum : Nat) : Nat := min nodes maximum

end OsdMigration.Osd
