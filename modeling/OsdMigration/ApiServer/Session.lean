import OsdMigration.ApiServer.Exchange
import OsdMigration.Cluster.Form.Outcome
import OsdMigration.Json.Bytes
import OsdMigration.Text.Blank
import OsdMigration.Text.Numeral
import OsdMigration.Text.Utf8

set_option autoImplicit false

/-! # The session of a command

What a command prints comes in frames on two channels. A frame on a third channel says how the
command ended and closes the session; a session that ends without one is that of a command that
succeeded.
-/

namespace OsdMigration.ApiServer

open Cluster (CommandOutput checked? declares members?)
open Cluster.Form (causeRest detailsRest outcomeRest)
open Json (text? list? lastOf?)

/-- A reason why a command ended, with what is said about it. -/
structure EndCause where
  reason : Option String
  message : Option String
deriving DecidableEq, Repr

/-- How a command ended, in the words of the API server. -/
structure EndStatus where
  status : Option String := none
  reason : Option String := none
  message : Option String := none
  causes : Option (List EndCause) := none
deriving DecidableEq, Repr

/-- A cause, read. -/
def EndCause.ofJson? (j : Json) : Option EndCause := do
  let ms ← members? j
  checked? causeRest ms
  pure ⟨← lastOf? text? ms "reason", ← lastOf? text? ms "message"⟩

/-- The causes in the details, read. -/
def causes? (j : Json) : Option (Option (List EndCause)) := do
  let ms ← members? j
  checked? detailsRest ms
  lastOf? (list? EndCause.ofJson?) ms "causes"

/-- How a command ended, read. -/
def EndStatus.ofJson? (j : Json) : Option EndStatus := do
  let ms ← members? j
  if !declares ms "apiVersion" "v1" || !declares ms "kind" "Status" then none
  else
    checked? outcomeRest ms
    let details ← lastOf? causes? ms "details"
    pure ⟨← lastOf? text? ms "status", ← lastOf? text? ms "reason", ← lastOf? text? ms "message",
      details.join⟩

/-- The exit code in a status. A command that did not succeed for another reason than its exit
code could not be run. -/
def EndStatus.exitCode (s : EndStatus) : Except String Int :=
  if s.status = some "Success" then .ok 0
  else if s.reason = some "NonZeroExitCode" then
    let cause := (s.causes.getD []).find? fun c => c.reason = some "ExitCode"
    match (cause.bind EndCause.message).bind fun m => Text.int32? (Text.trim m) with
    | some code => .ok code
    | none => .error "non-zero exit without an exit code"
  else .error (s.message.getD "exec failed without a status message")

/-- The exit code of a session that ended with a status or without one. -/
def exitCode : Option EndStatus → Except String Int
  | none => .ok 0
  | some s => s.exitCode

/-- What was received of a session: the bytes of both outputs, and the bytes of the status. -/
structure Received where
  stdout : List UInt8 := []
  stderr : List UInt8 := []
  status : Option (List UInt8) := none
deriving DecidableEq, Repr

/-- Takes in frames, up to the first that holds a status. Empty frames and other channels mean
nothing. -/
def receive : List Frame → Received
  | [] => {}
  | f :: rest =>
    if f.data = [] then receive rest
    -- nothing behind the status is looked at
    else if f.channel = 3 then { status := some f.data }
    else
      let r := receive rest
      if f.channel = 1 then { r with stdout := f.data ++ r.stdout }
      else if f.channel = 2 then { r with stderr := f.data ++ r.stderr }
      else r

/-- The status in bytes. -/
def readStatus (bytes : List UInt8) : Except String EndStatus :=
  match (Json.ofBytes? bytes).bind EndStatus.ofJson? with
  | some s => .ok s
  | none => .error "failed to deserialize status object"

/-- The output of the command of a session, or why there is none. -/
def outputOf (frames : List Frame) : Except String CommandOutput := do
  let r := receive frames
  -- the outputs come before the status, so their faults win
  let stdout ← (Text.Utf8.decode r.stdout).mapError Text.Utf8.Invalid.message
  let stderr ← (Text.Utf8.decode r.stderr).mapError Text.Utf8.Invalid.message
  let status ← r.status.mapM readStatus
  let code ← exitCode status
  pure ⟨code, stdout, stderr⟩

end OsdMigration.ApiServer
