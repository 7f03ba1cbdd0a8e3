import OsdMigration.Cluster.Object
import OsdMigration.Failure
import OsdMigration.Json.Patch
import OsdMigration.Json.Parser
import OsdMigration.Json.Printer
import OsdMigration.Json.Record

set_option autoImplicit false

/-! # Requests to the cluster

Everything a migration can ask of the cluster, each request with the type of its reply. Nothing
else is ever sent, so a statement about all requests is a statement about all effects.
-/

namespace OsdMigration.Cluster

/-- What a command printed, and its exit code. -/
structure CommandOutput where
  code : Int
  stdout : String
  stderr : String
deriving DecidableEq, Repr, Inhabited

namespace CommandOutput

/-- The output of a command that printed a text and succeeded. -/
def success (stdout : String) : CommandOutput := ⟨0, stdout, ""⟩

/-- The output as a value; every part must be there. -/
def ofJson? (j : Json) : Option CommandOutput := do
  match ← Json.record? ["exit_code", "stdout", "stderr"] j with
  | [code, stdout, stderr] =>
    pure ⟨← Json.required? code Json.int32?, ← Json.required? stdout Json.text?,
      ← Json.required? stderr Json.text?⟩
  | _ => none

/-- The output of a JSON text. -/
def parse? (text : String) : Option CommandOutput := (Json.parse? text).bind ofJson?

end CommandOutput

/-- A request. Those that name a namespace say so first. -/
inductive Request where
  | getDeployment (space name : String)
  | createDeployment (space : String) (deployment : Deployment)
  | patchDeployment (space name : String) (patch : Json.Patch)
  | deleteDeployment (space name : String)
  | listPods (space selector : String)
  | deletePods (space selector : String)
  | listNodes
  | patchCluster (space name : String) (patch : Json.Patch)
  | exec (space pod container : String) (argv : List String)
deriving Repr

/-- The kinds of requests. -/
inductive Request.Kind where
  | getDeployment
  | createDeployment
  | patchDeployment
  | deleteDeployment
  | listPods
  | deletePods
  | listNodes
  | patchCluster
  | exec
deriving DecidableEq, Repr

namespace Request

/-- What a request of a kind is answered with. -/
abbrev Kind.Reply : Kind → Type
  | .getDeployment => Option Deployment
  | .listPods => List Pod
  | .listNodes => List Node
  | .exec => CommandOutput
  | .createDeployment | .patchDeployment | .deleteDeployment | .deletePods | .patchCluster => Unit

/-- The kind of a request. -/
abbrev kind : Request → Kind
  | .getDeployment .. => .getDeployment
  | .createDeployment .. => .createDeployment
  | .patchDeployment .. => .patchDeployment
  | .deleteDeployment .. => .deleteDeployment
  | .listPods .. => .listPods
  | .deletePods .. => .deletePods
  | .listNodes => .listNodes
  | .patchCluster .. => .patchCluster
  | .exec .. => .exec

/-- What a request is answered with. -/
abbrev Reply (r : Request) : Type := r.kind.Reply

/-- A command line: the arguments with spaces between them. -/
def commandLine (argv : List String) : String := String.intercalate " " argv

/-- The request on one line. -/
def line : Request → String
  | .getDeployment space name => "get_deployment " ++ space ++ "/" ++ name
  | .createDeployment space d =>
    "create_deployment " ++ space ++ "/" ++ d.metadata.name.getD ""
  | .patchDeployment space name patch =>
    "patch_deployment " ++ space ++ "/" ++ name ++ " " ++ patch.toJson.render
  | .deleteDeployment space name => "delete_deployment " ++ space ++ "/" ++ name
  | .listPods space selector => "list_pods " ++ space ++ " " ++ selector
  | .deletePods space selector => "delete_pods " ++ space ++ " " ++ selector
  | .listNodes => "list_nodes"
  | .patchCluster space name patch =>
    "patch_ceph_cluster " ++ space ++ "/" ++ name ++ " " ++ patch.toJson.render
  | .exec space pod container argv =>
    "exec " ++ space ++ "/" ++ pod ++ "/" ++ container ++ " " ++ commandLine argv

end Request

end OsdMigration.Cluster
