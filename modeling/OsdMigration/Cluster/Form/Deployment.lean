import OsdMigration.Cluster.Form.Metadata

set_option autoImplicit false

/-! # The form of deployments

What is asked of a deployment, and how it does.
-/

namespace OsdMigration.Cluster.Form

/-- How pods are replaced. -/
def strategy : Fields := [
  ("rollingUpdate", .record [("maxSurge", .intOrText), ("maxUnavailable", .intOrText)]),
  ("type", .text)]

/-- A condition of a deployment. -/
def deploymentCondition : Fields := [
  ("lastTransitionTime", .time), ("lastUpdateTime", .time), ("message", .text), ("reason", .text),
  ("status", .required .text), ("type", .required .text)]

/-- A selector of labels without the labels to match. -/
def ownershipRest : Fields := [("matchExpressions", .list (.record requirement))]

/-- What is asked of a deployment, without the count of its pods, their labels and their template.
-/
def deploymentRest : Fields := [
  ("minReadySeconds", .int32), ("paused", .bool), ("progressDeadlineSeconds", .int32),
  ("revisionHistoryLimit", .int32), ("strategy", .record strategy)]

/-- The status of a deployment without the four counts. -/
def deploymentStatusRest : Fields := [
  ("collisionCount", .int32), ("conditions", .list (.record deploymentCondition)),
  ("observedGeneration", .int64), ("unavailableReplicas", .int32)]

end OsdMigration.Cluster.Form
