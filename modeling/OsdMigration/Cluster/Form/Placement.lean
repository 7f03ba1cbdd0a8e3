import OsdMigration.Cluster.Form.Metadata

set_option autoImplicit false

/-! # The form of placement

Where pods may run.
-/

namespace OsdMigration.Cluster.Form

/-- Demands on a node. -/
def nodeTerm : Fields := [
  ("matchExpressions", .list (.record requirement)), ("matchFields", .list (.record requirement))]

/-- A preference for nodes. -/
def nodePreference : Fields := [
  ("preference", .required (.record nodeTerm)), ("weight", .required .int32)]

/-- A selector of nodes. -/
def nodeSelector : Fields := [("nodeSelectorTerms", .required (.list (.record nodeTerm)))]

/-- On which nodes a pod may run. -/
def nodeAffinity : Fields := [
  ("preferredDuringSchedulingIgnoredDuringExecution", .list (.record nodePreference)),
  ("requiredDuringSchedulingIgnoredDuringExecution", .record nodeSelector)]

/-- Which other pods are meant. -/
def podTerm : Fields := [
  ("labelSelector", .record labelSelector), ("matchLabelKeys", .list .text),
  ("mismatchLabelKeys", .list .text), ("namespaceSelector", .record labelSelector),
  ("namespaces", .list .text), ("topologyKey", .required .text)]

/-- A preference for other pods. -/
def podPreference : Fields := [
  ("podAffinityTerm", .required (.record podTerm)), ("weight", .required .int32)]

/-- Beside which other pods a pod may run. -/
def podAffinity : Fields := [
  ("preferredDuringSchedulingIgnoredDuringExecution", .list (.record podPreference)),
  ("requiredDuringSchedulingIgnoredDuringExecution", .list (.record podTerm))]

/-- Where a pod may run. -/
def affinity : Fields := [
  ("nodeAffinity", .record nodeAffinity), ("podAffinity", .record podAffinity),
  ("podAntiAffinity", .record podAffinity)]

/-- A taint that is put up with. -/
def toleration : Fields := [
  ("effect", .text), ("key", .text), ("operator", .text), ("tolerationSeconds", .int64),
  ("value", .text)]

/-- How pods are spread. -/
def spread : Fields := [
  ("labelSelector", .record labelSelector), ("matchLabelKeys", .list .text),
  ("maxSkew", .required .int32), ("minDomains", .int32), ("nodeAffinityPolicy", .text),
  ("nodeTaintsPolicy", .text), ("topologyKey", .required .text),
  ("whenUnsatisfiable", .required .text)]

end OsdMigration.Cluster.Form
