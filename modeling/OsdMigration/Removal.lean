import OsdMigration.Wait.OsdDown
import OsdMigration.Wait.Removability

set_option autoImplicit false

/-! # Removing an OSD

An OSD is removed in eight steps, each of which has to succeed before the next begins: its data is
moved away, its pod is stopped, and only when the cluster is healthy again without it is the OSD
purged and its deployment deleted.
-/

namespace OsdMigration

open Ceph (Command osdName)
open Cluster (Request)

namespace Removal

/-- A step of the removal. -/
inductive Step where
  /-- Data starts to move off the OSD. -/
  | reweight
  /-- All data has moved and the cluster has settled. -/
  | settleBefore
  /-- The deployment is asked for no pods. -/
  | scaleDown
  /-- The deployment has no pods. -/
  | confirmScale
  /-- Ceph has noticed that the OSD is down. -/
  | awaitDown
  /-- The cluster is still healthy and the OSD can still go. -/
  | settleAfter
  /-- Ceph forgets the OSD. -/
  | purge
  /-- The deployment is deleted. -/
  | cleanUp
deriving DecidableEq, Repr

/-- The steps in their order. -/
def sequence : List Step :=
  [.reweight, .settleBefore, .scaleDown, .confirmScale, .awaitDown, .settleAfter, .purge, .cleanUp]

/-- The name of a step. -/
def Step.name : Step → String
  | .reweight => "reweight"
  | .settleBefore => "wait-safe-pre"
  | .scaleDown => "scale-down"
  | .confirmScale => "confirm-scaled"
  | .awaitDown => "wait-device-down"
  | .settleAfter => "wait-safe-post"
  | .purge => "purge"
  | .cleanUp => "cleanup"

/-- Runs a command whose failure is annotated with its command line. -/
def command (s : Settings) (cmd : Command) : Job Unit := do
  let _ ← (Toolbox.run s cmd.argv).during
    ("failed to run '" ++ Request.commandLine cmd.argv ++ "'")
  pure ()

/-- A step of the removal of an OSD. -/
def Step.perform (c : Context) (osd : UInt32) : Step → Job Unit
  | .reweight => do
    Job.report ("Reweighting " ++ osdName osd ++ " to 0")
    command c.settings (.reweight osd)
  | .settleBefore => do
    Job.report ("Waiting for health to stabilize and data to migrate after reweighting "
      ++ osdName osd)
    (awaitRemovable c osd none).during
      ("failed to wait for rook to become healthy after reweighting osd " ++ toString osd)
  | .scaleDown => do
    let deployment := c.settings.osdDeployment osd
    Job.tell (.stamped ("Scaling down " ++ osdName osd ++ " deployment at "))
    (Job.ask (.patchDeployment c.settings.space deployment (Cluster.scalePatch 0))).during
      ("failed to scale down " ++ deployment ++ " deployment")
  | .confirmScale =>
    let deployment := c.settings.osdDeployment osd
    (awaitScale c deployment 0 (Settings.seconds c.settings.scaleTimeout)).during
      ("failed to wait for the " ++ deployment ++ " deployment to scale down")
  | .awaitDown => do
    Job.tell (.stamped "Waiting for osd to be down at ")
    (awaitOsdDown c (some (Settings.seconds c.settings.osdDownTimeout))).during
      "failed to wait for an OSD to be marked down after scale down"
    Job.tell (.stamped "Removed osd was marked out by Rook at ")
  | .settleAfter =>
    (awaitRemovable c osd none).during
      ("failed to wait for rook to become healthy after scaling down osd " ++ toString osd)
  | .purge => do
    Job.report ("Purging hostpath " ++ osdName osd
      ++ " as all data has been migrated to other devices")
    command c.settings (.purge osd)
  | .cleanUp =>
    (Job.ask (.deleteDeployment c.settings.space (c.settings.osdDeployment osd))).during
      ("failed to delete deployment for osd " ++ toString osd)

end Removal

/-- Removes an OSD. -/
def removeOsd (c : Context) (osd : UInt32) : Job Unit := do
  Removal.sequence.forM fun step => step.perform c osd
  Job.report ("Successfully purged " ++ osdName osd)

end OsdMigration
