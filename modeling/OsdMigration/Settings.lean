import OsdMigration.Failure

set_option autoImplicit false

/-! # Settings

Names, selectors and timings of an installation. The defaults are those of a stock installation;
`Settings.check` refuses values with which a wait would spin or never give up.
-/

namespace OsdMigration

/-- The settings of a migration. -/
structure Settings where
  /-- The namespace that everything runs in. -/
  space : String
  /-- The name of the cluster object. -/
  cluster : String
  /-- The deployment that commands run in. -/
  toolbox : String
  /-- The selector of its pods. -/
  toolboxSelector : String
  /-- The deployment of the operator. -/
  operator : String
  /-- The selector of its pods. -/
  operatorSelector : String
  /-- The selector of the pods of OSDs. -/
  osdSelector : String
  /-- The label that carries the number of an OSD. -/
  osdLabel : String
  /-- What stands before the number in the name of an OSD's deployment. -/
  osdDeploymentStem : String
  /-- The mount path that marks an OSD on a host directory. -/
  hostpathMount : String
  /-- The milliseconds between two polls. -/
  interval : UInt64
  /-- How many failures in a row of one check end a wait. -/
  patience : UInt32
  /-- The most hosts with block devices that are ever waited for. -/
  maxBlockHosts : UInt64
  /-- How many healthy polls in a row make a cluster healthy. -/
  healthConfirmations : UInt32
  /-- How many healthy and safe polls in a row let an OSD go. -/
  safeConfirmations : UInt32
  /-- The seconds within which the cluster must be healthy at the start. -/
  healthTimeout : UInt64
  /-- The seconds within which the toolbox must be up. -/
  toolboxTimeout : UInt64
  /-- The seconds within which a deployment must be down. -/
  scaleTimeout : UInt64
  /-- The seconds within which an OSD must be down. -/
  osdDownTimeout : UInt64
deriving DecidableEq, Repr

namespace Settings

/-- The settings of a stock installation. -/
def standard : Settings where
  space := "rook-ceph"
  cluster := "rook-ceph"
  toolbox := "rook-ceph-tools"
  toolboxSelector := "app=rook-ceph-tools"
  operator := "rook-ceph-operator"
  operatorSelector := "app=rook-ceph-operator"
  osdSelector := "app=rook-ceph-osd"
  osdLabel := "ceph-osd-id"
  osdDeploymentStem := "rook-ceph-osd-"
  hostpathMount := "/opt/replicated/rook"
  interval := 1000
  patience := 5
  maxBlockHosts := 3
  healthConfirmations := 5
  safeConfirmations := 3
  healthTimeout := 60
  toolboxTimeout := 300
  scaleTimeout := 600
  osdDownTimeout := 600

instance : Inhabited Settings := ⟨standard⟩

/-- The settings, unless one of them makes no sense. -/
def check (s : Settings) : Attempt Unit :=
  if s.interval = 0 then .error (.settings "pollIntervalMs must be positive")
  else if s.patience = 0 then .error (.settings "maxConsecutiveFailures must be positive")
  else if s.maxBlockHosts = 0 then .error (.settings "maxBlockHosts must be positive")
  else if s.space = "" ∨ s.cluster = "" then
    .error (.settings "namespace and clusterName must be set")
  else .ok ()

/-- The deployment of an OSD. -/
def osdDeployment (s : Settings) (osd : UInt32) : String :=
  s.osdDeploymentStem ++ toString osd

/-- Seconds as milliseconds. -/
def seconds (n : UInt64) : Nat := n.toNat * 1000

end Settings

end OsdMigration
