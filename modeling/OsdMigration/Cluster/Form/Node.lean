import OsdMigration.Cluster.Form.Container

set_option autoImplicit false

/-! # The form of nodes

What is asked of a node, and how it does.
-/

namespace OsdMigration.Cluster.Form

/-- Where the configuration of a node comes from. -/
def configSource : Fields := [
  ("configMap", .record [("kubeletConfigKey", .required .text), ("name", .required .text),
    ("namespace", .required .text), ("resourceVersion", .text), ("uid", .text)])]

/-- A taint. -/
def taint : Fields := [
  ("effect", .required .text), ("key", .required .text), ("timeAdded", .time), ("value", .text)]

/-- What is asked of a node. -/
def nodeSpec : Fields := [
  ("configSource", .record configSource), ("externalID", .text), ("podCIDR", .text),
  ("podCIDRs", .list .text), ("providerID", .text), ("taints", .list (.record taint)),
  ("unschedulable", .bool)]

/-- An address of a node. -/
def nodeAddress : Fields := [("address", .required .text), ("type", .required .text)]

/-- A condition of a node. -/
def nodeCondition : Fields := [
  ("lastHeartbeatTime", .time), ("lastTransitionTime", .time), ("message", .text),
  ("reason", .text), ("status", .required .text), ("type", .required .text)]

/-- The configuration of a node. -/
def nodeConfig : Fields := [
  ("active", .record configSource), ("assigned", .record configSource), ("error", .text),
  ("lastKnownGood", .record configSource)]

/-- An image on a node. -/
def image : Fields := [("names", .list .text), ("sizeBytes", .int64)]

/-- What a node is. -/
def nodeInfo : Fields := [
  ("architecture", .required .text), ("bootID", .required .text),
  ("containerRuntimeVersion", .required .text), ("kernelVersion", .required .text),
  ("kubeProxyVersion", .required .text), ("kubeletVersion", .required .text),
  ("machineID", .required .text), ("operatingSystem", .required .text),
  ("osImage", .required .text), ("systemUUID", .required .text)]

/-- The status of a node. -/
def nodeStatus : Fields := [
  ("addresses", .list (.record nodeAddress)), ("allocatable", .map .text),
  ("capacity", .map .text), ("conditions", .list (.record nodeCondition)),
  ("config", .record nodeConfig),
  ("daemonEndpoints", .record [("kubeletEndpoint", .record [("Port", .required .int32)])]),
  ("images", .list (.record image)), ("nodeInfo", .record nodeInfo), ("phase", .text),
  ("volumesAttached", .list (.record device)), ("volumesInUse", .list .text)]

/-- A node without its metadata. -/
def nodeRest : Fields := [("spec", .record nodeSpec), ("status", .record nodeStatus)]

end OsdMigration.Cluster.Form
