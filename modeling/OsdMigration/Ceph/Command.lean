set_option autoImplicit false

/-! # Commands for Ceph

The commands a migration runs in the toolbox.
-/

namespace OsdMigration.Ceph

/-- A command. -/
inductive Command where
  | status
  | safeToDestroy (osd : UInt32)
  | reweight (osd : UInt32)
  | purge (osd : UInt32)
deriving DecidableEq, Repr

/-- The name by which Ceph knows an OSD. -/
def osdName (osd : UInt32) : String := "osd." ++ toString osd

/-- The arguments of a command. -/
def Command.argv : Command → List String
  | .status => ["ceph", "status", "--format", "json-pretty"]
  | .safeToDestroy osd => ["ceph", "osd", "safe-to-destroy", osdName osd]
  | .reweight osd => ["ceph", "osd", "reweight", osdName osd, "0"]
  | .purge osd => ["ceph", "osd", "purge", toString osd, "--yes-i-really-mean-it"]

end OsdMigration.Ceph
