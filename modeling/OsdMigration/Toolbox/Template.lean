import OsdMigration.Cluster.Object

set_option autoImplicit false

/-! # The deployment of a toolbox

One pod with one container that waits for commands. It sees the devices of its host, and gets the
monitors' addresses and the administrator's key from the operator's objects.
-/

namespace OsdMigration.Toolbox

open Cluster

/-- A mount of a volume. -/
def mount (path name : String) : Mount := { name, path }

/-- A volume that is a directory of the host. -/
def hostVolume (name path : String) : Json :=
  .obj [("hostPath", .obj [("path", .str path)]), ("name", .str name)]

/-- The volume with the monitors' addresses. -/
def monitorVolume : Json :=
  .obj [("configMap", .obj [
      ("items", .arr [.obj [("key", .str "data"), ("path", .str "mon-endpoints")]]),
      ("name", .str "rook-ceph-mon-endpoints")]),
    ("name", .str "mon-endpoint-volume")]

/-- The variable with the administrator's key. -/
def adminKey : Json :=
  .obj [("name", .str "ROOK_ADMIN_SECRET"),
    ("valueFrom", .obj [("secretKeyRef",
      .obj [("key", .str "admin-secret"), ("name", .str "rook-ceph-mon")])])]

/-- What the container runs, and with which rights. -/
def containerRest : Json.Rest Form.containerRest where
  members := [
    ("args", .arr [.str "-g", .str "--", .str "/usr/local/bin/toolbox.sh"]),
    ("command", .arr [.str "/tini"]),
    ("env", .arr [adminKey]),
    ("imagePullPolicy", .str "IfNotPresent"),
    ("securityContext", .obj [("privileged", .bool true)])]
  normal := by decide +kernel

/-- The pod's place in the network of its host, and its volumes. -/
def podRest : Json.Rest Form.podRest where
  members := [
    ("dnsPolicy", .str "ClusterFirstWithHostNet"),
    ("hostNetwork", .bool true),
    ("volumes", .arr [hostVolume "dev" "/dev", hostVolume "sysbus" "/sys/bus",
      hostVolume "libmodules" "/lib/modules", monitorVolume])]
  normal := by decide +kernel

/-- The container. -/
def container (image : String) : Container where
  name := "rook-ceph-tools"
  image := some image
  mounts := some [mount "/dev" "dev", mount "/sys/bus" "sysbus", mount "/lib/modules" "libmodules",
    mount "/etc/rook" "mon-endpoint-volume"]
  rest := containerRest

/-- The labels of the pod. They do not depend on the settings. -/
def labels : Labels := .ofList [("app", "rook-ceph-tools")]

/-- The deployment with the given name and image. -/
def deployment (space name image : String) : Deployment where
  metadata := { name := some name, space := some space, labels := some labels }
  spec := some {
    replicas := some 1
    owned := { labels := some labels }
    template := {
      metadata := some { labels := some labels }
      spec := some {
        containers := [container image]
        rest := podRest } } }

end OsdMigration.Toolbox
