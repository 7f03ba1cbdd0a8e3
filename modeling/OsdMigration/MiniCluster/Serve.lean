import OsdMigration.Cluster.Object.Codec
import OsdMigration.MiniCluster.CephCommands
import OsdMigration.MiniCluster.Reconcile

set_option autoImplicit false

/-! # Serving requests

What each request does to the cluster in memory, and what it is answered with. Namespaces and the
name of the cluster object are not looked at.
-/

namespace OsdMigration.MiniCluster

open Cluster

/-- The cluster after a request was noted. -/
def noted (m : MiniCluster) (r : Request) : MiniCluster := { m with log := r :: m.log }

/-- The failure of a patch that cannot be applied. -/
def rejected (r : Json.Patch.Rejection) : Failure :=
  .internal ("the server rejected our request: " ++ r.message)

/-- A deployment after a patch. -/
def patched (d : Deployment) (patch : Json.Patch) : Attempt Deployment :=
  match patch.apply d.toJson with
  | .error r => .error (rejected r)
  | .ok j =>
    match Deployment.ofJson? j with
    | some d => .ok d
    | none => .error (.json "not a deployment")

/-- The failure to find a deployment. -/
def noDeployment (name : String) : Failure := .missing "Deployment" name

/-- Creates a deployment. -/
def create (m : MiniCluster) (d : Deployment) : Attempt Unit × MiniCluster :=
  let name := d.metadata.name.getD ""
  if m.deployments.contains name then
    (.error (.internal ("deployments \"" ++ name ++ "\" already exists")), m)
  else (.ok (), reconcile { m with deployments := m.deployments.insert name d })

/-- Patches a deployment. -/
def patch (m : MiniCluster) (name : String) (p : Json.Patch) : Attempt Unit × MiniCluster :=
  match m.deployments.get? name with
  | none => (.error (noDeployment name), m)
  | some d =>
    match patched d p with
    | .error f => (.error f, m)
    | .ok d => (.ok (), reconcile { m with deployments := m.deployments.insert name d })

/-- Deletes a deployment; its pods stay. -/
def delete (m : MiniCluster) (name : String) : Attempt Unit × MiniCluster :=
  if m.deployments.contains name then
    (.ok (), { m with deployments := m.deployments.erase name })
  else (.error (noDeployment name), m)

/-- Lists pods. -/
def list (m : MiniCluster) (selector : String) : Attempt (List Pod) × MiniCluster :=
  let rest := { m with listingFaults := m.listingFaults.tail }
  if m.listingFaults.head? = some true then (.error (.device "connection refused"), rest)
  else (.ok (m.pods.filter fun p => p.selectedBy selector), rest)

/-- Deletes pods; their deployments make new ones. -/
def deletePods (m : MiniCluster) (selector : String) : MiniCluster :=
  reconcile { m with pods := m.pods.filter fun p => !p.selectedBy selector }

/-- Whether every block device is used. -/
def usesAllDevices (m : MiniCluster) : Bool :=
  match (((m.clusterObject.get? "spec").bind (·.get? "storage")).bind
    (·.get? "useAllDevices")) with
  | some (.bool true) => true
  | _ => false

/-- Brings up the OSDs that wait for block devices. -/
def bringUp (m : MiniCluster) : MiniCluster :=
  m.pending.foldl (fun m (osd, host) => m.withOsd osd host false) { m with pending := [] }

/-- Patches the cluster object. -/
def patchObject (m : MiniCluster) (p : Json.Patch) : Attempt Unit × MiniCluster :=
  match p.apply m.clusterObject with
  | .error r => (.error (rejected r), m)
  | .ok j =>
    let m := { m with clusterObject := j }
    (.ok (), if m.usesAllDevices then m.bringUp else m)

/-- Runs a command in a pod. -/
def exec (m : MiniCluster) (pod : String) (argv : List String) :
    Attempt CommandOutput × MiniCluster :=
  let line := Request.commandLine argv
  if !m.pods.any fun p => p.metadata.name == some pod then
    (.error (.unreachable line pod "pods not found"), m)
  else
    match m.replies.get? line with
    -- a prepared reply leaves the cluster as it is, whatever the command
    | some (reply :: rest) => (reply, { m with replies := m.replies.insert line rest })
    | _ =>
      let (output, m) := m.ownReply argv
      (.ok output, m)

/-- Serves a request; nothing comes back from a command that hangs. -/
def serve (m : MiniCluster) : (r : Request) → Option (Attempt r.Reply) × MiniCluster
  | .getDeployment _ name => (some (.ok (m.deployments.get? name)), m)
  | .createDeployment space d =>
    let (a, m) := (m.noted (.createDeployment space d)).create d
    (some a, m)
  | .patchDeployment space name p =>
    let (a, m) := (m.noted (.patchDeployment space name p)).patch name p
    (some a, m)
  | .deleteDeployment space name =>
    let (a, m) := (m.noted (.deleteDeployment space name)).delete name
    (some a, m)
  | .listPods _ selector =>
    let (a, m) := m.list selector
    (some a, m)
  | .deletePods space selector =>
    (some (.ok ()), (m.noted (.deletePods space selector)).deletePods selector)
  | .listNodes => (some (.ok m.nodes), m)
  | .patchCluster space name p =>
    let (a, m) := (m.noted (.patchCluster space name p)).patchObject p
    (some a, m)
  | .exec space pod container argv =>
    let m := m.noted (.exec space pod container argv)
    if m.hangCommands then (none, m)
    else
      let (a, m) := m.exec pod argv
      (some a, m)

end OsdMigration.MiniCluster
