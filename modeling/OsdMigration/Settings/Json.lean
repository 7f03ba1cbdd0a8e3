import OsdMigration.Settings
import OsdMigration.Json.Parser
import OsdMigration.Json.Record

set_option autoImplicit false

/-! # Settings as JSON

Settings are written as an object of all nineteen fields and read from an object of any of them:
a field that is left out keeps its standard value, and members of other names are skipped.
-/

namespace OsdMigration.Settings

open Json (record? field? text? uint32? uint64?)

/-- The names of the fields, in their order. -/
def fieldNames : List String :=
  ["namespace", "clusterName", "toolboxDeployment", "toolboxSelector", "operatorDeployment",
    "operatorSelector", "osdSelector", "osdIdLabel", "osdDeploymentPrefix", "legacyMountPath",
    "pollIntervalMs", "maxConsecutiveFailures", "maxBlockHosts", "healthConfirmations",
    "safeConfirmations", "initialHealthTimeoutSecs", "toolboxReadyTimeoutSecs",
    "scaleDownTimeoutSecs", "osdDownTimeoutSecs"]

/-- The settings of the fields that are present. What counts as a text or a number depends on the
document, so the readers of both are given. -/
def ofSlots? {α : Type} (text : α → Option String) (word : α → Option UInt32)
    (long : α → Option UInt64) (slots : List (Option α)) : Option Settings := do
  let get {β : Type} (slot : Option α) (read : α → Option β) (default : β) : Option β :=
    match slot with
    | none => some default
    | some a => read a
  match slots with
  | [space, cluster, toolbox, toolboxSelector, operator, operatorSelector, osdSelector, osdLabel,
      osdDeploymentStem, hostpathMount, interval, patience, maxBlockHosts, healthConfirmations,
      safeConfirmations, healthTimeout, toolboxTimeout, scaleTimeout, osdDownTimeout] =>
    pure {
      space := ← get space text standard.space
      cluster := ← get cluster text standard.cluster
      toolbox := ← get toolbox text standard.toolbox
      toolboxSelector := ← get toolboxSelector text standard.toolboxSelector
      operator := ← get operator text standard.operator
      operatorSelector := ← get operatorSelector text standard.operatorSelector
      osdSelector := ← get osdSelector text standard.osdSelector
      osdLabel := ← get osdLabel text standard.osdLabel
      osdDeploymentStem := ← get osdDeploymentStem text standard.osdDeploymentStem
      hostpathMount := ← get hostpathMount text standard.hostpathMount
      interval := ← get interval long standard.interval
      patience := ← get patience word standard.patience
      maxBlockHosts := ← get maxBlockHosts long standard.maxBlockHosts
      healthConfirmations := ← get healthConfirmations word standard.healthConfirmations
      safeConfirmations := ← get safeConfirmations word standard.safeConfirmations
      healthTimeout := ← get healthTimeout long standard.healthTimeout
      toolboxTimeout := ← get toolboxTimeout long standard.toolboxTimeout
      scaleTimeout := ← get scaleTimeout long standard.scaleTimeout
      osdDownTimeout := ← get osdDownTimeout long standard.osdDownTimeout }
  | _ => none

/-- The settings of a JSON value. -/
def ofJson? (j : Json) : Option Settings :=
  (record? fieldNames j).bind (ofSlots? text? uint32? uint64?)

/-- The settings of a JSON text. -/
def parse? (text : String) : Option Settings := (Json.parse? text).bind ofJson?

/-- The settings as a JSON value. -/
def toJson (s : Settings) : Json :=
  .obj (fieldNames.zip [.str s.space, .str s.cluster, .str s.toolbox, .str s.toolboxSelector,
    .str s.operator, .str s.operatorSelector, .str s.osdSelector, .str s.osdLabel,
    .str s.osdDeploymentStem, .str s.hostpathMount, .ofNat s.interval.toNat,
    .ofNat s.patience.toNat, .ofNat s.maxBlockHosts.toNat, .ofNat s.healthConfirmations.toNat,
    .ofNat s.safeConfirmations.toNat, .ofNat s.healthTimeout.toNat,
    .ofNat s.toolboxTimeout.toNat, .ofNat s.scaleTimeout.toNat, .ofNat s.osdDownTimeout.toNat])

end OsdMigration.Settings
