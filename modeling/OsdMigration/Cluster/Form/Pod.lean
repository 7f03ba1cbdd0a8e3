import OsdMigration.Cluster.Form.Placement
import OsdMigration.Cluster.Form.Volume

set_option autoImplicit false

/-! # The form of pods

What a pod is made of, and how it does.
-/

namespace OsdMigration.Cluster.Form

/-- An option of name resolution. -/
def nameOption : Fields := [("name", .text), ("value", .text)]

/-- How names are resolved. -/
def nameResolution : Fields := [
  ("nameservers", .list .text), ("options", .list (.record nameOption)), ("searches", .list .text)]

/-- Names of an address. -/
def hostAlias : Fields := [("hostnames", .list .text), ("ip", .text)]

/-- A condition of readiness. -/
def readinessGate : Fields := [("conditionType", .required .text)]

/-- A claim of resources. -/
def podClaim : Fields := [
  ("name", .required .text),
  ("source", .record [("resourceClaimName", .text), ("resourceClaimTemplateName", .text)])]

/-- A name with a value. -/
def parameter : Fields := [("name", .required .text), ("value", .required .text)]

/-- The rights of a pod. -/
def podSecurityContext : Fields := [
  ("fsGroup", .int64), ("fsGroupChangePolicy", .text), ("runAsGroup", .int64),
  ("runAsNonRoot", .bool), ("runAsUser", .int64), ("seLinuxOptions", .record securityLabels),
  ("seccompProfile", .record callFilter), ("supplementalGroups", .list .int64),
  ("sysctls", .list (.record parameter)), ("windowsOptions", .record windowsOptions)]

/-- What a pod is made of, without its containers and its node. -/
def podRest : Fields := [
  ("activeDeadlineSeconds", .int64), ("affinity", .record affinity),
  ("automountServiceAccountToken", .bool), ("dnsConfig", .record nameResolution),
  ("dnsPolicy", .text), ("enableServiceLinks", .bool),
  ("ephemeralContainers", .list (.record ephemeralContainer)),
  ("hostAliases", .list (.record hostAlias)), ("hostIPC", .bool), ("hostNetwork", .bool),
  ("hostPID", .bool), ("hostUsers", .bool), ("hostname", .text),
  ("imagePullSecrets", .list (.record localReference)),
  ("initContainers", .list (.record container)), ("nodeSelector", .map .text),
  ("os", .record named), ("overhead", .map .text), ("preemptionPolicy", .text),
  ("priority", .int32), ("priorityClassName", .text),
  ("readinessGates", .list (.record readinessGate)), ("resourceClaims", .list (.record podClaim)),
  ("restartPolicy", .text), ("runtimeClassName", .text), ("schedulerName", .text),
  ("schedulingGates", .list (.record named)), ("securityContext", .record podSecurityContext),
  ("serviceAccount", .text), ("serviceAccountName", .text), ("setHostnameAsFQDN", .bool),
  ("shareProcessNamespace", .bool), ("subdomain", .text),
  ("terminationGracePeriodSeconds", .int64), ("tolerations", .list (.record toleration)),
  ("topologySpreadConstraints", .list (.record spread)), ("volumes", .list (.record volume))]

/-- A condition of a pod. -/
def podCondition : Fields := [
  ("lastProbeTime", .time), ("lastTransitionTime", .time), ("message", .text), ("reason", .text),
  ("status", .required .text), ("type", .required .text)]

/-- The state of a container. -/
def containerState : Fields := [
  ("running", .record [("startedAt", .time)]),
  ("terminated", .record [
    ("containerID", .text), ("exitCode", .required .int32), ("finishedAt", .time),
    ("message", .text), ("reason", .text), ("signal", .int32), ("startedAt", .time)]),
  ("waiting", .record [("message", .text), ("reason", .text)])]

/-- The status of a container. -/
def containerStatus : Fields := [
  ("allocatedResources", .map .text), ("containerID", .text), ("image", .required .text),
  ("imageID", .required .text), ("lastState", .record containerState), ("name", .required .text),
  ("ready", .required .bool), ("resources", .record resources),
  ("restartCount", .required .int32), ("started", .bool), ("state", .record containerState)]

/-- An address. -/
def address : Fields := [("ip", .text)]

/-- The status of a claim. -/
def claimStatus : Fields := [("name", .required .text), ("resourceClaimName", .text)]

/-- The status of a pod without the address of its host. -/
def podStatusRest : Fields := [
  ("conditions", .list (.record podCondition)),
  ("containerStatuses", .list (.record containerStatus)),
  ("ephemeralContainerStatuses", .list (.record containerStatus)),
  ("hostIPs", .list (.record address)),
  ("initContainerStatuses", .list (.record containerStatus)), ("message", .text),
  ("nominatedNodeName", .text), ("phase", .text), ("podIP", .text),
  ("podIPs", .list (.record address)), ("qosClass", .text), ("reason", .text), ("resize", .text),
  ("resourceClaimStatuses", .list (.record claimStatus)), ("startTime", .time)]

end OsdMigration.Cluster.Form
