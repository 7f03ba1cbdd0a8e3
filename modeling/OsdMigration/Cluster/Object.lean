import OsdMigration.Cluster.Form.Deployment
import OsdMigration.Cluster.Form.Node
import OsdMigration.Cluster.Form.Pod
import OsdMigration.Json.Rest

set_option autoImplicit false

/-! # Objects of the cluster

Pods, nodes and deployments, as far as a migration looks at them. Whatever else a deployment may
hold is carried along, so that it can be changed in one place and written back.
-/

namespace OsdMigration.Cluster

/-! ## What need not be there

None of the members that are carried along is required. -/

instance : EmptyCollection (Json.Rest Form.metadataRest) := ⟨⟨[], rfl⟩⟩

instance : EmptyCollection (Json.Rest Form.mountRest) := ⟨⟨[], rfl⟩⟩

instance : EmptyCollection (Json.Rest Form.containerRest) := ⟨⟨[], rfl⟩⟩

instance : EmptyCollection (Json.Rest Form.podRest) := ⟨⟨[], rfl⟩⟩

instance : EmptyCollection (Json.Rest Form.ownershipRest) := ⟨⟨[], rfl⟩⟩

instance : EmptyCollection (Json.Rest Form.deploymentRest) := ⟨⟨[], rfl⟩⟩

instance : EmptyCollection (Json.Rest Form.deploymentStatusRest) := ⟨⟨[], rfl⟩⟩

/-! ## Objects -/

/-- Labels: names with values. -/
abbrev Labels := NameMap String

/-- What an object is called. -/
structure Metadata where
  name : Option String := none
  space : Option String := none
  labels : Option Labels := none
  rest : Json.Rest Form.metadataRest := ∅
deriving Repr

/-- The labels; an object that has none counts as one with the empty map. -/
def Metadata.labelMap (m : Metadata) : Labels := m.labels.getD .empty

/-- A volume seen by a container. -/
structure Mount where
  name : String
  path : String
  rest : Json.Rest Form.mountRest := ∅
deriving Repr

/-- A container of a pod. -/
structure Container where
  name : String
  image : Option String := none
  mounts : Option (List Mount) := none
  rest : Json.Rest Form.containerRest := ∅
deriving Repr

/-- What a pod is made of, and the node it was given to. -/
structure PodSpec where
  node : Option String := none
  containers : List Container := []
  rest : Json.Rest Form.podRest := ∅
deriving Repr

/-- Where a pod runs. -/
structure PodStatus where
  hostAddress : Option String := none
deriving Repr

/-- A pod. -/
structure Pod where
  metadata : Metadata := {}
  spec : Option PodSpec := none
  status : Option PodStatus := none
deriving Repr

/-- The labels of a pod. -/
def Pod.labels (p : Pod) : Labels := p.metadata.labelMap

/-- A node. -/
structure Node where
  metadata : Metadata := {}
deriving Repr

/-- What the pods of a deployment look like. -/
structure Template where
  metadata : Option Metadata := none
  spec : Option PodSpec := none
deriving Repr

/-- The labels by which a deployment knows its pods. -/
structure Ownership where
  labels : Option Labels := none
  rest : Json.Rest Form.ownershipRest := ∅
deriving Repr

/-- What is asked of a deployment. -/
structure DeploymentSpec where
  replicas : Option Int := none
  owned : Ownership := {}
  template : Template := {}
  rest : Json.Rest Form.deploymentRest := ∅
deriving Repr

/-- How many pods of a deployment there are, in four ways of counting. -/
structure DeploymentStatus where
  replicas : Option Int := none
  ready : Option Int := none
  available : Option Int := none
  updated : Option Int := none
  rest : Json.Rest Form.deploymentStatusRest := ∅
deriving Repr

/-- A deployment. -/
structure Deployment where
  metadata : Metadata := {}
  spec : Option DeploymentSpec := none
  status : Option DeploymentStatus := none
deriving Repr

namespace Deployment

/-- How many pods are asked for, if that is said. -/
def wanted? (d : Deployment) : Option Int := d.spec.bind DeploymentSpec.replicas

/-- The image of the first container. -/
def firstImage? (d : Deployment) : Option String := do
  let spec ← d.spec
  let pod ← spec.template.spec
  let container ← pod.containers.head?
  container.image

/-- Whether the deployment is at a scale: all four counts are the number of pods, where a count
that is not given is zero. A deployment without status is at scale zero. -/
def atScale (d : Deployment) (scale : Int) : Bool :=
  match d.status with
  | none => scale == 0
  | some s =>
    s.replicas.getD 0 == scale && s.available.getD 0 == scale && s.ready.getD 0 == scale
      && s.updated.getD 0 == scale

end Deployment

end OsdMigration.Cluster
