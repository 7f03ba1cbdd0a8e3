import OsdMigration.Cluster.Request
import OsdMigration.MiniCluster.OsdSet

set_option autoImplicit false

/-! # A cluster in memory

Just enough of a cluster for a migration to run from end to end: deployments with their pods,
nodes, the cluster object, and a Ceph that knows some OSDs. Commands can be given replies in
advance, and listings of pods can be made to fail.
-/

namespace OsdMigration

open Cluster

/-- A cluster in memory. -/
structure MiniCluster where
  deployments : NameMap Deployment
  pods : List Pod
  nodes : List Node
  /-- The cluster object. -/
  clusterObject : Json
  /-- The OSDs that Ceph knows. -/
  osds : OsdSet
  /-- The OSDs that come up once every block device is used, with their hosts. -/
  pending : List (UInt32 × String)
  /-- Replies to command lines, to be used up before the cluster's own. -/
  replies : NameMap (List (Attempt CommandOutput))
  /-- The changes and commands that were asked for, the latest first. -/
  log : List Request
  /-- Whether deployments come to the scale they are asked for at once. -/
  autoRollout : Bool
  /-- The report that `ceph status` fills in. -/
  report : Json
  /-- For each of the next listings of pods, whether it fails. -/
  listingFaults : List Bool
  /-- Whether commands are never answered. -/
  hangCommands : Bool

namespace MiniCluster

/-- The namespace of everything that is made here. -/
def space : String := "rook-ceph"

/-- The directory of the host that backs an OSD. -/
def hostDirectory : String := "/opt/replicated/rook"

/-- The report of a healthy cluster. -/
def healthyReport : Json := Json.canonical (.obj [
  ("fsid", .str "0fc5a1fe-ea3a-4ad2-a4d1-4b1d4f0e2a87"),
  ("health", .obj [("checks", .obj []), ("status", .str "HEALTH_OK")]),
  ("election_epoch", .ofNat 9),
  ("quorum", .arr [.ofNat 0]),
  ("quorum_names", .arr [.str "a"]),
  ("quorum_age", .ofNat 7211),
  ("osdmap", .obj [("osdmap", .obj [
    ("epoch", .ofNat 41), ("num_osds", .ofNat 3), ("num_up_osds", .ofNat 3),
    ("num_in_osds", .ofNat 3), ("full", .bool false), ("nearfull", .bool false),
    ("num_remapped_pgs", .ofNat 0)])]),
  ("pgmap", .obj [
    ("pgs_by_state", .arr [.obj [("state_name", .str "active+clean"), ("count", .ofNat 100)]]),
    ("num_pgs", .ofNat 100), ("num_pools", .ofNat 7), ("num_objects", .ofNat 231),
    ("data_bytes", .ofNat 7413946), ("bytes_used", .ofNat 3256328192),
    ("bytes_avail", .ofNat 99349565440), ("bytes_total", .ofNat 102605893632),
    ("read_bytes_sec", .ofNat 1278), ("write_bytes_sec", .ofNat 0),
    ("read_op_per_sec", .ofNat 1), ("write_op_per_sec", .ofNat 0)]),
  ("progress_events", .obj [])])

/-- The cluster object of a cluster that stores its data on a directory of each host. -/
def directoryObject : Json := Json.canonical (.obj [("spec", .obj [("storage", .obj [
  ("useAllNodes", .bool true), ("useAllDevices", .bool false),
  ("directories", .arr [.obj [("path", .str hostDirectory)]])])])])

/-- The cluster in which nothing runs. -/
def bare : MiniCluster where
  deployments := .empty
  pods := []
  nodes := []
  clusterObject := directoryObject
  osds := .empty
  pending := []
  replies := .empty
  log := []
  autoRollout := true
  report := healthyReport
  listingFaults := []
  hangCommands := false

instance : Inhabited MiniCluster := ⟨bare⟩

/-! ## Making things run -/

/-- The counts of a deployment that has come to a scale. -/
def converged (scale : Int) : DeploymentStatus where
  replicas := some scale
  ready := some scale
  available := some scale
  updated := some scale

/-- A deployment that owns the pods with the labels of the given one. -/
def deploymentFor (name : String) (pod : Pod) (scale : Int) : Deployment where
  metadata := { name := some name, space := some space }
  spec := some {
    replicas := some scale
    owned := { labels := some pod.labels }
    template := { metadata := some { labels := some pod.labels }, spec := pod.spec } }
  status := some (converged scale)

/-- The deployment of an OSD. -/
def osdDeployment (osd : UInt32) : String := "rook-ceph-osd-" ++ toString osd

/-- The pod of an OSD. It mounts the directory of its host, or all devices. -/
def osdPod (osd : UInt32) (host : String) (hostpath : Bool) : Pod where
  metadata := {
    name := some ("rook-ceph-osd-" ++ toString osd ++ "-7c9f8d5b4-x2k9p")
    space := some space
    labels := some (.ofList [("app", "rook-ceph-osd"), ("ceph-osd-id", toString osd)]) }
  spec := some { containers := [{
    name := "osd"
    image := some "rook/ceph:v1.0.4"
    mounts := some [{ name := "rook-data", path := "/var/lib/rook" },
      if hostpath then { name := "rook-ceph-osd-dir", path := hostDirectory }
      else { name := "devices", path := "/dev" }] }] }
  status := some { hostAddress := some host }

/-- A pod with one container, by the name of the application. -/
def appPod (app suffix image : String) : Pod where
  metadata := {
    name := some (app ++ suffix)
    space := some space
    labels := some (.ofList [("app", app)]) }
  spec := some { containers := [{ name := app, image := some image }] }
  status := some {}

/-- The cluster with a pod and the deployment that owns it. -/
def run (m : MiniCluster) (deployment : String) (pod : Pod) : MiniCluster :=
  { m with
    deployments := m.deployments.insert deployment (deploymentFor deployment pod 1)
    pods := m.pods ++ [pod] }

/-- The cluster with nodes of these names only. -/
def withNodes (m : MiniCluster) (names : List String) : MiniCluster :=
  { m with nodes := names.map fun name => { metadata := { name := some name } } }

/-- The cluster with a running toolbox. -/
def withToolbox (m : MiniCluster) : MiniCluster :=
  m.run "rook-ceph-tools" (appPod "rook-ceph-tools" "-5b9d6f8c9-pm7tq" "rook/ceph:v1.0.4")

/-- The cluster with a running operator. -/
def withOperator (m : MiniCluster) (image : String) : MiniCluster :=
  m.run "rook-ceph-operator" (appPod "rook-ceph-operator" "-6d9c4c7b8-lq4z2" image)

/-- The cluster with a running OSD. -/
def withOsd (m : MiniCluster) (osd : UInt32) (host : String) (hostpath : Bool) : MiniCluster :=
  { m.run (osdDeployment osd) (osdPod osd host hostpath) with osds := m.osds.insert osd }

/-- The cluster with these OSDs to come up on block devices. -/
def withPending (m : MiniCluster) (osds : List (UInt32 × String)) : MiniCluster :=
  { m with pending := osds }

end MiniCluster

end OsdMigration
