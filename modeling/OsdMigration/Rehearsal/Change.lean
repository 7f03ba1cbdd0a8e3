import OsdMigration.MiniCluster.Basic
import OsdMigration.Json.Canonical

set_option autoImplicit false

/-! # Changes from outside

What can happen to a cluster in memory without a request: replies are prepared, objects appear,
disappear or change. Nothing is reconciled on a change.
-/

namespace OsdMigration

open Cluster

/-- A change; its parts are made in the order they stand here. -/
structure Change where
  /-- Replies to command lines, behind those that are prepared already. -/
  replies : List (String × List (Attempt CommandOutput)) := []
  /-- For listings of pods to come, whether they fail. -/
  listingFaults : List Bool := []
  /-- Deployments put in or taken out. -/
  deployments : List (String × Option Deployment) := []
  autoRollout : Option Bool := none
  hangCommands : Option Bool := none
  clusterObject : Option Json := none
  report : Option Json := none
  /-- OSDs that Ceph forgets. -/
  forgotten : List UInt32 := []
  /-- OSDs that Ceph learns of. -/
  known : List UInt32 := []
  /-- The names of pods that go. -/
  gonePods : List String := []
  /-- Pods that come. -/
  newPods : List Pod := []
  /-- Status put in place of those of deployments. -/
  statuses : List (String × Option DeploymentStatus) := []
  /-- What deployments are asked for. -/
  replicas : List (String × Int) := []

namespace MiniCluster

/-- The cluster with more replies to a command line. -/
def prepare (m : MiniCluster) (line : String) (replies : List (Attempt CommandOutput)) :
    MiniCluster :=
  { m with replies := m.replies.insert line ((m.replies.get? line).getD [] ++ replies) }

/-- The cluster with a deployment put in or taken out. -/
def place (m : MiniCluster) (name : String) (d : Option Deployment) : MiniCluster :=
  { m with deployments :=
      match d with
      | some d => m.deployments.insert name d
      | none => m.deployments.erase name }

/-- The cluster with another status of a deployment. -/
def setStatus (m : MiniCluster) (name : String) (status : Option DeploymentStatus) :
    MiniCluster :=
  { m with deployments := m.deployments.modify name fun d => { d with status } }

/-- The cluster with a deployment asked for another scale. -/
def setReplicas (m : MiniCluster) (name : String) (n : Int) : MiniCluster :=
  { m with deployments := m.deployments.modify name fun d =>
      { d with spec := d.spec.map fun spec => { spec with replicas := some n } } }

/-- The cluster after a change. -/
def change (m : MiniCluster) (c : Change) : MiniCluster :=
  let m := c.replies.foldl (fun m (line, replies) => m.prepare line replies) m
  let m := { m with listingFaults := m.listingFaults ++ c.listingFaults }
  let m := c.deployments.foldl (fun m (name, d) => m.place name d) m
  let m := { m with
    autoRollout := c.autoRollout.getD m.autoRollout
    hangCommands := c.hangCommands.getD m.hangCommands
    clusterObject := (c.clusterObject.map Json.canonical).getD m.clusterObject
    report := (c.report.map Json.canonical).getD m.report
    osds := c.known.foldl OsdSet.insert (c.forgotten.foldl OsdSet.erase m.osds)
    pods := (m.pods.filter fun p => !c.gonePods.any (fun n => p.metadata.name == some n))
      ++ c.newPods }
  let m := c.statuses.foldl (fun m (name, status) => m.setStatus name status) m
  c.replicas.foldl (fun m (name, n) => m.setReplicas name n) m

end MiniCluster

end OsdMigration
