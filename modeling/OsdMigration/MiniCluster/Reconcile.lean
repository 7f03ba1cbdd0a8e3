import OsdMigration.Cluster.Selector
import OsdMigration.MiniCluster.Basic

set_option autoImplicit false

/-! # Reconciling

Every deployment gets what it asks for: none of its pods if it asks for no pods, and else at
least one. The deployments are taken in the order of their names.
-/

namespace OsdMigration.MiniCluster

open Cluster

/-- The selector of the pods of a deployment. -/
def ownSelector (spec : DeploymentSpec) : String :=
  Selector.encode (spec.owned.labels.getD .empty)

/-- The scale a deployment asks for; one pod if it does not say. -/
def desired (spec : DeploymentSpec) : Int := spec.replicas.getD 1

/-- The pod that is made for a deployment without pods. -/
def freshPod (name : String) (spec : DeploymentSpec) : Pod where
  metadata := {
    name := some (name ++ "-0")
    space := some space
    labels := spec.template.metadata.bind Metadata.labels }
  spec := spec.template.spec
  status := some {}

/-- The pods after one deployment got what it asks for. -/
def settlePods (name : String) (spec : DeploymentSpec) (pods : List Pod) : List Pod :=
  let selector := ownSelector spec
  -- the pods are those of the selector, whoever made them
  if desired spec = 0 then pods.filter fun p => !p.selectedBy selector
  else if pods.any fun p => p.selectedBy selector then pods
  else pods ++ [freshPod name spec]

/-- The pods after every deployment of a list got what it asks for. -/
def settleAll : List (String × Deployment) → List Pod → List Pod
  | [], pods => pods
  | (name, d) :: rest, pods =>
    settleAll rest (match d.spec with
      | some spec => settlePods name spec pods
      | none => pods)

/-- A deployment that has come to the scale it asks for. -/
def rolledOut (d : Deployment) : Deployment :=
  match d.spec with
  | some spec => { d with status := some (converged (desired spec)) }
  | none => d

theorem spec_rolledOut (d : Deployment) : (rolledOut d).spec = d.spec := by
  unfold rolledOut
  split <;> rfl

/-- The cluster after every deployment got what it asks for. -/
def reconcile (m : MiniCluster) : MiniCluster :=
  { m with
    pods := settleAll m.deployments.pairs m.pods
    deployments :=
      if m.autoRollout then m.deployments.mapValues fun _ d => rolledOut d else m.deployments }

end OsdMigration.MiniCluster
