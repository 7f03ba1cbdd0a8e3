import OsdMigration.Cluster.Patches
import OsdMigration.Toolbox.Template
import OsdMigration.Wait.Scale

set_option autoImplicit false

/-! # The toolbox

Commands for Ceph run in the only pod of the toolbox. The toolbox is started with the image of the
operator if it does not exist, scaled up if none of its pods is ready, and never scaled down.
-/

namespace OsdMigration.Toolbox

open Cluster (CommandOutput Deployment Pod Request)

/-- The image that the operator runs. -/
def operatorImage (s : Settings) : Job String := do
  match ← Job.ask (.getDeployment s.space s.operator) with
  | none => Job.fail (.missing "Deployment" (s.space ++ "/" ++ s.operator))
  | some d =>
    match d.firstImage? with
    | some image => pure image
    | none => Job.fail (.internal ("deployment " ++ s.operator ++ " has no container image"))

/-- Waits for the only pod. -/
def awaitUp (c : Context) : Job Unit :=
  (awaitScale c c.settings.toolbox 1 (Settings.seconds c.settings.toolboxTimeout)).during
    "unable to wait for rook-ceph-tools to scale up"

/-- Scales an existing toolbox up. -/
def scaleUp (c : Context) : Job Unit := do
  (Job.ask (.patchDeployment c.settings.space c.settings.toolbox (Cluster.scalePatch 1))).during
    "unable to scale up rook-ceph-tools deployment"
  awaitUp c

/-- Starts a toolbox. -/
def create (c : Context) : Job Unit := do
  Job.report "The rook-ceph-toolbox deployment does not exist, starting it"
  let image ← (operatorImage c.settings).during "unable to determine rook-ceph-operator image"
  (Job.ask (.createDeployment c.settings.space
    (deployment c.settings.space c.settings.toolbox image))).during
    "unable to create rook-ceph-tools deployment"
  Job.report "Waiting for rook-ceph-toolbox to start"
  awaitUp c
  Job.report "Started rook-ceph-toolbox deployment"

/-- Whether some pod of a deployment is ready. -/
def isReady (d : Deployment) : Bool :=
  0 < (d.status.bind Cluster.DeploymentStatus.ready).getD 0

/-- Makes sure that the toolbox is up. -/
def ensureReady (c : Context) : Job Unit := do
  let existing ← (Job.ask (.getDeployment c.settings.space c.settings.toolbox)).during
    "unable to determine rook-ceph-tools deployment status"
  match existing with
  -- one ready pod is enough, whatever scale the deployment asks for
  | some d => if isReady d then pure () else scaleUp c
  | none => create c

/-- The only pod of a listing, with its first container. -/
def solePod (pods : List Pod) : Attempt (String × String) :=
  match pods with
  | [pod] =>
    let name := pod.metadata.name.getD ""
    match pod.spec.bind fun s => s.containers.head? with
    | some container => .ok (name, container.name)
    | none => .error (.internal ("pod " ++ name ++ " has no containers"))
  | pods => .error (.toolboxPods pods.length (pods.filterMap fun p => p.metadata.name))

/-- The failure of a command that the user cancelled. -/
def abandoned (line : String) (i : Interruption) : Failure :=
  i.failure ("'" ++ line ++ "' to finish") none

/-- Work that only the user can end. -/
def cancellable {α : Type} (line : String) (work : Procedure α) : Job α :=
  .mk (.within none work fun o => .pure (o.mapError (abandoned line)))

/-- Runs a command. An exit code other than zero is a failure; the user can cancel while the
command runs. -/
def run (s : Settings) (argv : List String) : Job CommandOutput := do
  let line := Request.commandLine argv
  let pods ← (Job.ask (.listPods s.space s.toolboxSelector)).during
    "unable to find rook-ceph-tools pod"
  let (pod, container) ← Job.ofAttempt (solePod pods)
  -- the listing is not cancellable, the command is
  let answer ← cancellable line (.call (.exec s.space pod container argv) .pure)
  let output ← Job.ofAttempt answer
  if output.code = 0 then pure output
  else Job.fail (.exitCode output.code pod line output.stderr)

end OsdMigration.Toolbox
