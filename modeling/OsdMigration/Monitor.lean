import OsdMigration.Ceph.Command
import OsdMigration.Ceph.Removability
import OsdMigration.Ceph.Status.Reader
import OsdMigration.Ceph.Verdict
import OsdMigration.Text.Blank
import OsdMigration.Toolbox

set_option autoImplicit false

/-! # Asking Ceph

Two questions: how the cluster is, and whether an OSD can go. Both are commands in the toolbox
whose output is read.
-/

namespace OsdMigration.Monitor

open Ceph (Command Removability Status)
open Cluster (CommandOutput)

/-- The report of a cluster in the output of its command. -/
def readStatus (output : CommandOutput) : Attempt Status :=
  match Status.parse? output.stdout with
  | some status => .ok status
  | none => .error (.json "not a status report")

/-- How the cluster is. The toolbox is started if need be. -/
def fetchStatus (c : Context) : Job Status := do
  (Toolbox.ensureReady c).during "failed to start toolbox, required for rook health checks"
  let output ← (Toolbox.run c.settings Command.status.argv).during
    "failed to run 'ceph status --format json-pretty'"
  (Job.ofAttempt (readStatus output)).during
    "failed to decode 'ceph status --format json-pretty'"

/-- Whether the cluster is healthy, and if not, why. -/
def health (c : Context) : Job (Bool × String) := do
  let status ← fetchStatus c
  pure status.verdict

/-- The answer about an OSD, and the words it was given in. -/
structure Answer where
  removability : Removability
  words : String
deriving DecidableEq, Repr

/-- The answer in the output of a command that succeeded. What was written as an error counts
first. -/
def Answer.ofOutput (output : CommandOutput) : Answer where
  removability :=
    match Removability.ofText output.stderr with
    | .unknown => Removability.ofText output.stdout
    | r => r
  words := String.intercalate "\n"
    ([Text.trim output.stderr, Text.trim output.stdout].filter (· ≠ ""))

/-- The answer in the outcome of the command. Ceph gives an exit code while data is in the way,
so what such a command wrote as an error may be an answer too. -/
def Answer.ofOutcome : Attempt CommandOutput → Attempt Answer
  | .ok output => .ok (.ofOutput output)
  | .error (.exitCode code pod command stderr) =>
    match Removability.ofText stderr with
    | .unknown => .error (.exitCode code pod command stderr)
    | r => .ok ⟨r, stderr⟩
  | .error f => .error f

/-- Asks whether an OSD can go. -/
def askRemovability (c : Context) (osd : UInt32) : Job Answer :=
  Job.during ("unable to check if osd " ++ toString osd ++ " is safe to destroy")
    (.mk ((Toolbox.run c.settings (Command.safeToDestroy osd).argv).attempt.bind fun outcome =>
      .pure (Answer.ofOutcome outcome)))

/-- Whether an OSD can go. -/
def removability (c : Context) (osd : UInt32) : Job Removability := do
  let answer ← askRemovability c osd
  pure answer.removability

end OsdMigration.Monitor
