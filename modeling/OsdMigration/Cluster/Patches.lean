import OsdMigration.Json.Patch

set_option autoImplicit false

/-! # The patches of a migration

A migration changes deployments and the cluster object by three patches only.
-/

namespace OsdMigration.Cluster

/-- Asks a deployment for so many pods. -/
def scalePatch (replicas : Int) : Json.Patch := [.replace "/spec/replicas" (.ofInt replicas)]

/-- Lets the cluster use every empty block device. -/
def useAllDevicesPatch : Json.Patch := [.replace "/spec/storage/useAllDevices" (.bool true)]

/-- Takes the directories away from the cluster. -/
def dropDirectoriesPatch : Json.Patch := [.remove "/spec/storage/directories"]

end OsdMigration.Cluster
