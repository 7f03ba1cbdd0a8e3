import OsdMigration.ApiServer.Session
import OsdMigration.ApiServer.StatusLine
import OsdMigration.Ceph.StorageSpec

set_option autoImplicit false

/-! # Understanding the API server

The answer to a request, taken from the response of the API server. A deployment that is not
found is an answer and no failure. Bodies are followed down to some level of nesting only.
-/

namespace OsdMigration.ApiServer

open Cluster
open Json (record? required? field? single? text? nullable? intIn? list?)

/-- The reason in the body of a response with an error. -/
def errorReason? (body : String) : Option String := do
  match ← record? ["status", "message", "reason", "code"] (← Json.parse? body) with
  | [status, message, reason, code] =>
    let _ ← required? status text?
    let _ ← field? message text? ""
    let _ ← required? code (intIn? 0 65535)
    field? reason text? ""
  | _ => none

/-- The failure of a response that cannot be used. -/
def unusable (text : String) : Failure := .api text

/-- The body of a response that is no error. -/
def bodyOf : Response → Attempt String
  | .refused => .error (unusable "ServiceError: connection refused")
  | .http status body =>
    if isError status then .error (unusable (statusLine status)) else .ok body
  | .session _ => .error (unusable (statusLine 101))

/-- How many levels of arrays and objects a reader follows. -/
def levels : Nat := 127

/-- The value in the body of a response that is no error. -/
def valueOf {α : Type} (read : Json → Option α) (r : Response) : Attempt α := do
  let body ← bodyOf r
  match (Json.parse? body).bind fun j => read (j.clip levels) with
  | some a => .ok a
  | none => .error (unusable "unreadable body")

/-! ## Lists -/

/-- The metadata of a list. -/
def listMetadata? (j : Json) : Option Unit := do
  let ms ← members? j
  checked? Form.listMetadata ms

/-- The items of a list of objects. Both the metadata and the items are there, and of the other
members every part can be read. -/
def items? {α : Type} (read : Json → Option α) (j : Json) : Option (List α) := do
  let ms ← members? j
  listMetadata? (← (single? ms "metadata").join)
  let items ← nullable? (list? read) (← (single? ms "items").join)
  if ms.all fun m => m.1 = "metadata" ∨ m.1 = "items" ∨ m.2.isReadable then
    some (items.getD [])
  else none

/-! ## Deletions -/

/-- The verdict of a deletion: a word, also as the name of a member that is null. -/
def verdict? : Json → Option String
  | .str s => if s = "Success" ∨ s = "Failure" then some s else none
  | .obj [(s, .null)] => if s = "Success" ∨ s = "Failure" then some s else none
  | _ => none

/-- A cause that a deletion was refused. -/
def refusal? (j : Json) : Option Unit := do
  let _ ← (← record? ["reason", "message", "field"] j).mapM fun slot => field? slot text? ""
  pure ()

/-- The details of a deletion. -/
def deletionDetails? (j : Json) : Option Unit := do
  match ← record? ["name", "group", "kind", "uid", "causes", "retryAfterSeconds"] j with
  | [name, group, kind, uid, causes, seconds] =>
    let _ ← [name, group, kind, uid].mapM fun slot => field? slot text? ""
    let _ ← field? causes (list? refusal?) []
    let _ ← field? seconds Json.uint32? 0
    pure ()
  | _ => none

/-- The status of a deletion, whose parts have to have their forms. -/
def deletionStatus? (j : Json) : Option Unit := do
  match ← record? ["status", "code", "message", "reason", "details"] j with
  | [status, code, message, reason, details] =>
    let _ ← field? status (nullable? verdict?) none
    let _ ← field? code (intIn? 0 65535) 0
    let _ ← [message, reason].mapM fun slot => field? slot text? ""
    let _ ← field? details (nullable? deletionDetails?) none
    pure ()
  | _ => none

/-- What a deletion is answered with: a status, or what is being deleted. To tell them apart,
every part is read. -/
def deletion? {α : Type} (read : Json → Option α) (j : Json) : Option Unit :=
  if !j.isReadable then none
  else if j.get? "kind" = some (.str "Status") then deletionStatus? j
  else (read j).map fun _ => ()

/-! ## Answers -/

/-- A cluster object: what it is called, and its storage. -/
def clusterObject? (j : Json) : Option Unit := do
  match ← record? ["metadata", "spec"] j with
  | [metadata, spec] =>
    let _ ← required? metadata Metadata.ofJson?
    let _ ← required? spec Ceph.StorageSpec.ofJson?
    pure ()
  | _ => none

/-- The deployment of a response, or that there is none. -/
def deploymentOf : Response → Attempt (Option Deployment)
  | .http status body =>
    if isError status ∧ errorReason? body = some "NotFound" then .ok none
    else (valueOf Deployment.ofJson? (.http status body)).map some
  | r => (valueOf Deployment.ofJson? r).map some

/-- The failure of a command that could not be run. -/
def unreachable (pod : String) (argv : List String) (reason : String) : Failure :=
  .unreachable (Request.commandLine argv) pod reason

/-- Why an HTTP response opens no session. One that switches to another protocol does not say to
which. -/
def noSession (status : Nat) : String :=
  "failed to upgrade to a WebSocket connection: " ++
    if status = 101 then "upgrade header was not set to websocket"
    else "failed to switch protocol: " ++ statusLine status

/-- The output of the command of a response, or why there is none. -/
def commandOutputOf : Response → Except String CommandOutput
  | .refused => .error "ServiceError: connection refused"
  | .http status _ => .error (noSession status)
  | .session frames => outputOf frames

/-- The answer to a request. -/
def answer : (r : Request) → Response → Attempt r.Reply
  | .getDeployment .., response => deploymentOf response
  | .createDeployment .., response | .patchDeployment .., response =>
    (valueOf Deployment.ofJson? response).map fun _ => ()
  | .deleteDeployment .., response => valueOf (deletion? Deployment.ofJson?) response
  | .listPods .., response => valueOf (items? Pod.ofJson?) response
  | .deletePods .., response => valueOf (deletion? (items? Pod.ofJson?)) response
  | .listNodes, response => valueOf (items? Node.ofJson?) response
  | .patchCluster .., response => valueOf clusterObject? response
  | .exec _ pod _ argv, response => (commandOutputOf response).mapError (unreachable pod argv)

/-- The failure of a request that was not sent. -/
def unsent (r : Request) (fault : Target.Fault) : Failure :=
  let text := "Failed to build request: failed to build request: " ++ fault.message
  match r with
  | .exec _ pod _ argv => unreachable pod argv text
  | _ => unusable text

/-- Asks a server, and gives the answer. -/
def ask (server : HttpRequest → Response) (r : Request) : Attempt r.Reply :=
  match address r with
  | .ok http => answer r (server http)
  | .error fault => .error (unsent r fault)

end OsdMigration.ApiServer
