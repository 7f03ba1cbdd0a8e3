import OsdMigration.Cluster.Object

set_option autoImplicit false

/-! # Objects as JSON

The API server writes objects as JSON objects in which every member may be missing, and a null is
the same as a missing member. A member that is there has to have its form, each time that it is
there, and then the last one counts. Members that no object of its kind has are left out. An
object that says of which kind it is has to say the right one. Written objects leave out what is
not given and name their members in order.
-/

namespace OsdMigration.Cluster

open Json (Rest text? list? map? int32? lastOf?)

/-! ## Members -/

/-- The members of an object. -/
def members? : Json → Option (List (String × Json))
  | .obj members => some members
  | _ => none

/-- A member that has a default. -/
def defaulted? {α : Type} (read : Json → Option α) (members : List (String × Json))
    (name : String) (default : α) : Option α :=
  (lastOf? read members name).map fun a => a.getD default

/-- The members have the forms of the fields, so far as they are fields. -/
def checked? (fields : Form.Fields) (members : List (String × Json)) : Option Unit :=
  (Json.Shape.readFields? fields members).map fun _ => ()

/-- Whether a member that names the kind of an object is right or missing. -/
def declares (members : List (String × Json)) (name value : String) : Bool :=
  members.all fun m => m.1 ≠ name || m.2.text? = some value

/-- A member that is written only if it is given. -/
def written {α : Type} (name : String) (write : α → Json) (a : Option α) : List (String × Json) :=
  a.toList.map fun a => (name, write a)

/-- An object with its members in order. -/
def object (members : List (String × Json)) : Json := .obj (NameMap.ofList members).pairs

/-! ## Metadata -/

/-- Labels, read. -/
def labels? : Json → Option Labels := map? text?

/-- Labels, written. -/
def labelsJson (labels : Labels) : Json := .obj (labels.pairs.map fun p => (p.1, .str p.2))

/-- Metadata, read. -/
def Metadata.ofJson? (j : Json) : Option Metadata := do
  let ms ← members? j
  pure ⟨← lastOf? text? ms "name", ← lastOf? text? ms "namespace", ← lastOf? labels? ms "labels",
    ← Rest.ofMembers? _ ms⟩

/-- Metadata, written. -/
def Metadata.toJson (m : Metadata) : Json :=
  object (written "name" .str m.name ++ written "namespace" .str m.space
    ++ written "labels" labelsJson m.labels ++ m.rest.members)

/-! ## Pods and nodes -/

/-- A mount, read. -/
def Mount.ofJson? (j : Json) : Option Mount := do
  let ms ← members? j
  pure ⟨← defaulted? text? ms "name" "", ← defaulted? text? ms "mountPath" "",
    ← Rest.ofMembers? _ ms⟩

/-- A mount, written. -/
def Mount.toJson (m : Mount) : Json :=
  object ([("name", .str m.name), ("mountPath", .str m.path)] ++ m.rest.members)

/-- A container, read. -/
def Container.ofJson? (j : Json) : Option Container := do
  let ms ← members? j
  pure ⟨← defaulted? text? ms "name" "", ← lastOf? text? ms "image",
    ← lastOf? (list? Mount.ofJson?) ms "volumeMounts", ← Rest.ofMembers? _ ms⟩

/-- A container, written. -/
def Container.toJson (c : Container) : Json :=
  object ([("name", .str c.name)] ++ written "image" .str c.image
    ++ written "volumeMounts" (fun mounts => .arr (mounts.map Mount.toJson)) c.mounts
    ++ c.rest.members)

/-- What a pod is made of, read. -/
def PodSpec.ofJson? (j : Json) : Option PodSpec := do
  let ms ← members? j
  pure ⟨← lastOf? text? ms "nodeName",
    ← defaulted? (list? Container.ofJson?) ms "containers" [], ← Rest.ofMembers? _ ms⟩

/-- What a pod is made of, written. -/
def PodSpec.toJson (s : PodSpec) : Json :=
  object (written "nodeName" .str s.node
    ++ [("containers", .arr (s.containers.map Container.toJson))] ++ s.rest.members)

/-- Where a pod runs, read. -/
def PodStatus.ofJson? (j : Json) : Option PodStatus := do
  let ms ← members? j
  checked? Form.podStatusRest ms
  pure ⟨← lastOf? text? ms "hostIP"⟩

/-- A pod, read. -/
def Pod.ofJson? (j : Json) : Option Pod := do
  let ms ← members? j
  if !declares ms "apiVersion" "v1" || !declares ms "kind" "Pod" then none
  else
    pure ⟨← defaulted? Metadata.ofJson? ms "metadata" {}, ← lastOf? PodSpec.ofJson? ms "spec",
      ← lastOf? PodStatus.ofJson? ms "status"⟩

/-- A node, read. -/
def Node.ofJson? (j : Json) : Option Node := do
  let ms ← members? j
  if !declares ms "apiVersion" "v1" || !declares ms "kind" "Node" then none
  else
    checked? Form.nodeRest ms
    pure ⟨← defaulted? Metadata.ofJson? ms "metadata" {}⟩

/-! ## Deployments -/

/-- A template, read. -/
def Template.ofJson? (j : Json) : Option Template := do
  let ms ← members? j
  pure ⟨← lastOf? Metadata.ofJson? ms "metadata", ← lastOf? PodSpec.ofJson? ms "spec"⟩

/-- A template, written. -/
def Template.toJson (t : Template) : Json :=
  object (written "metadata" Metadata.toJson t.metadata ++ written "spec" PodSpec.toJson t.spec)

/-- An ownership, read. -/
def Ownership.ofJson? (j : Json) : Option Ownership := do
  let ms ← members? j
  pure ⟨← lastOf? labels? ms "matchLabels", ← Rest.ofMembers? _ ms⟩

/-- An ownership, written. -/
def Ownership.toJson (o : Ownership) : Json :=
  object (written "matchLabels" labelsJson o.labels ++ o.rest.members)

/-- What is asked of a deployment, read. -/
def DeploymentSpec.ofJson? (j : Json) : Option DeploymentSpec := do
  let ms ← members? j
  pure ⟨← lastOf? int32? ms "replicas", ← defaulted? Ownership.ofJson? ms "selector" {},
    ← defaulted? Template.ofJson? ms "template" {}, ← Rest.ofMembers? _ ms⟩

/-- What is asked of a deployment, written. -/
def DeploymentSpec.toJson (s : DeploymentSpec) : Json :=
  object (written "replicas" .ofInt s.replicas
    ++ [("selector", s.owned.toJson), ("template", s.template.toJson)] ++ s.rest.members)

/-- The counts, read. -/
def DeploymentStatus.ofJson? (j : Json) : Option DeploymentStatus := do
  let ms ← members? j
  pure ⟨← lastOf? int32? ms "replicas", ← lastOf? int32? ms "readyReplicas",
    ← lastOf? int32? ms "availableReplicas", ← lastOf? int32? ms "updatedReplicas",
    ← Rest.ofMembers? _ ms⟩

/-- The counts, written. -/
def DeploymentStatus.toJson (s : DeploymentStatus) : Json :=
  object (written "replicas" .ofInt s.replicas ++ written "readyReplicas" .ofInt s.ready
    ++ written "availableReplicas" .ofInt s.available
    ++ written "updatedReplicas" .ofInt s.updated ++ s.rest.members)

/-- A deployment, read. -/
def Deployment.ofJson? (j : Json) : Option Deployment := do
  let ms ← members? j
  if !declares ms "apiVersion" "apps/v1" || !declares ms "kind" "Deployment" then none
  else
    pure ⟨← defaulted? Metadata.ofJson? ms "metadata" {},
      ← lastOf? DeploymentSpec.ofJson? ms "spec",
      ← lastOf? DeploymentStatus.ofJson? ms "status"⟩

/-- A deployment, written. -/
def Deployment.toJson (d : Deployment) : Json :=
  object ([("apiVersion", .str "apps/v1"), ("kind", .str "Deployment"),
    ("metadata", d.metadata.toJson)] ++ written "spec" DeploymentSpec.toJson d.spec
    ++ written "status" DeploymentStatus.toJson d.status)

end OsdMigration.Cluster
