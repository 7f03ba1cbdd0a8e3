import OsdMigration.ApiServer.Target
import OsdMigration.Cluster.Object.Codec
import OsdMigration.Cluster.Request

set_option autoImplicit false

/-! # Talking to the API server

Each request to the cluster is one HTTP request to the API server. A path names the kind of the
objects, their namespace and, if it is about one of them only, its name; a selector stands in the
query. A request whose names make no target is not sent.
-/

namespace OsdMigration.ApiServer

open Cluster (Request)

/-- An HTTP request. The body is given before it is written. -/
structure HttpRequest where
  method : String
  target : Target
  contentType : Option String
  body : Option Json
deriving Repr

/-- A piece of output of a command, with the channel it came on. -/
structure Frame where
  channel : UInt8
  data : List UInt8
deriving DecidableEq, Repr

/-- What comes back. -/
inductive Response where
  /-- No connection. -/
  | refused
  /-- An HTTP response. -/
  | http (status : Nat) (body : String)
  /-- A connection that carries the frames of a command and is then closed. -/
  | session (frames : List Frame)
deriving Repr

/-- The deployments of a namespace. -/
def deployments (space : String) : String := "/apis/apps/v1/namespaces/" ++ space ++ "/deployments"

/-- The pods of a namespace. -/
def pods (space : String) : String := "/api/v1/namespaces/" ++ space ++ "/pods"

/-- The cluster objects of a namespace. -/
def clusters (space : String) : String :=
  "/apis/ceph.rook.io/v1/namespaces/" ++ space ++ "/cephclusters"

/-- A query, also one without pairs. -/
def query (pairs : List (String × String)) : String :=
  String.ofList ('?' :: pairs.flatMap fun p => '&' :: Text.FormEncoding.encodePair p)

/-- A query for the objects with some labels. -/
def selecting (selector : String) : String := query [("labelSelector", selector)]

/-- The text of the target of a request. -/
def targetText : Request → String
  | .getDeployment space name => deployments space ++ "/" ++ name
  | .createDeployment space _ => deployments space ++ query []
  | .patchDeployment space name _ | .deleteDeployment space name =>
    deployments space ++ "/" ++ name ++ query []
  | .listPods space selector | .deletePods space selector => pods space ++ selecting selector
  | .listNodes => "/api/v1/nodes" ++ query []
  | .patchCluster space name _ => clusters space ++ "/" ++ name ++ query []
  | .exec space pod container argv =>
    pods space ++ "/" ++ pod ++ "/exec" ++ query ([("stdout", "true"), ("stderr", "true"),
      ("container", container)] ++ argv.map fun arg => ("command", arg))

/-- The method of a request. -/
def method : Request → String
  | .getDeployment .. | .listPods .. | .listNodes | .exec .. => "GET"
  | .createDeployment .. => "POST"
  | .patchDeployment .. | .patchCluster .. => "PATCH"
  | .deleteDeployment .. | .deletePods .. => "DELETE"

/-- The type of the body of a request. -/
def contentType : Request → Option String
  | .createDeployment .. | .deleteDeployment .. | .deletePods .. => some "application/json"
  | .patchDeployment .. | .patchCluster .. => some "application/json-patch+json"
  | .getDeployment .. | .listPods .. | .listNodes | .exec .. => none

/-- The body of a request. -/
def content : Request → Option Json
  | .createDeployment _ d => some d.toJson
  | .patchDeployment _ _ patch | .patchCluster _ _ patch => some patch.toJson
  | .deleteDeployment .. => some (.obj [])
  | .getDeployment .. | .listPods .. | .deletePods .. | .listNodes | .exec .. => none

/-- The HTTP request for a request. -/
def address (r : Request) : Except Target.Fault HttpRequest :=
  (Target.ofText (targetText r)).map fun target => ⟨method r, target, contentType r, content r⟩

end OsdMigration.ApiServer
