import OsdMigration.Cluster.Form.Metadata

set_option autoImplicit false

/-! # The form of containers

The parts of a container: its environment, its resources, its rights, and how it is watched.
-/

namespace OsdMigration.Cluster.Form

/-- A key of another object. -/
def keySelector : Fields := [("key", .required .text), ("name", .text), ("optional", .bool)]

/-- A field of the object itself. -/
def fieldSelector : Fields := [("apiVersion", .text), ("fieldPath", .required .text)]

/-- A resource of a container. -/
def resourceFieldSelector : Fields := [
  ("containerName", .text), ("divisor", .text), ("resource", .required .text)]

/-- Where the value of a variable comes from. -/
def variableSource : Fields := [
  ("configMapKeyRef", .record keySelector), ("fieldRef", .record fieldSelector),
  ("resourceFieldRef", .record resourceFieldSelector), ("secretKeyRef", .record keySelector)]

/-- An environment variable. -/
def envVariable : Fields := [
  ("name", .required .text), ("value", .text), ("valueFrom", .record variableSource)]

/-- A reference to an object that may be missing. -/
def optionalReference : Fields := [("name", .text), ("optional", .bool)]

/-- A source of environment variables. -/
def variablesSource : Fields := [
  ("configMapRef", .record optionalReference), ("prefix", .text),
  ("secretRef", .record optionalReference)]

/-- A command to run. -/
def commandAction : Fields := [("command", .list .text)]

/-- A header of a request. -/
def httpHeader : Fields := [("name", .required .text), ("value", .required .text)]

/-- A request to make. -/
def httpAction : Fields := [
  ("host", .text), ("httpHeaders", .list (.record httpHeader)), ("path", .text),
  ("port", .required .intOrText), ("scheme", .text)]

/-- A pause. -/
def sleepAction : Fields := [("seconds", .required .int64)]

/-- A connection to open. -/
def socketAction : Fields := [("host", .text), ("port", .required .intOrText)]

/-- A call to make. -/
def rpcAction : Fields := [("port", .required .int32), ("service", .text)]

/-- What is done when a container starts or stops. -/
def handler : Fields := [
  ("exec", .record commandAction), ("httpGet", .record httpAction),
  ("sleep", .record sleepAction), ("tcpSocket", .record socketAction)]

/-- What is done around the life of a container. -/
def lifecycle : Fields := [("postStart", .record handler), ("preStop", .record handler)]

/-- How to find out how a container does. -/
def probe : Fields := [
  ("exec", .record commandAction), ("failureThreshold", .int32), ("grpc", .record rpcAction),
  ("httpGet", .record httpAction), ("initialDelaySeconds", .int32), ("periodSeconds", .int32),
  ("successThreshold", .int32), ("tcpSocket", .record socketAction),
  ("terminationGracePeriodSeconds", .int64), ("timeoutSeconds", .int32)]

/-- A port of a container. -/
def port : Fields := [
  ("containerPort", .required .int32), ("hostIP", .text), ("hostPort", .int32), ("name", .text),
  ("protocol", .text)]

/-- What a change of a resource takes. -/
def resizePolicy : Fields := [
  ("resourceName", .required .text), ("restartPolicy", .required .text)]

/-- Something of which only the name is given. -/
def named : Fields := [("name", .required .text)]

/-- The resources of a container. -/
def resources : Fields := [
  ("claims", .list (.record named)), ("limits", .map .text), ("requests", .map .text)]

/-- Capabilities to add and to drop. -/
def capabilities : Fields := [("add", .list .text), ("drop", .list .text)]

/-- The labels of a mandatory access control. -/
def securityLabels : Fields := [
  ("level", .text), ("role", .text), ("type", .text), ("user", .text)]

/-- A profile of allowed system calls. -/
def callFilter : Fields := [("localhostProfile", .text), ("type", .required .text)]

/-- Options of one operating system. -/
def windowsOptions : Fields := [
  ("gmsaCredentialSpec", .text), ("gmsaCredentialSpecName", .text), ("hostProcess", .bool),
  ("runAsUserName", .text)]

/-- The rights of a container. -/
def securityContext : Fields := [
  ("allowPrivilegeEscalation", .bool), ("capabilities", .record capabilities),
  ("privileged", .bool), ("procMount", .text), ("readOnlyRootFilesystem", .bool),
  ("runAsGroup", .int64), ("runAsNonRoot", .bool), ("runAsUser", .int64),
  ("seLinuxOptions", .record securityLabels), ("seccompProfile", .record callFilter),
  ("windowsOptions", .record windowsOptions)]

/-- A block device seen by a container. -/
def device : Fields := [("devicePath", .required .text), ("name", .required .text)]

/-- A mount without its name and its path. -/
def mountRest : Fields := [
  ("mountPropagation", .text), ("readOnly", .bool), ("subPath", .text), ("subPathExpr", .text)]

/-- A mount. -/
def mount : Fields := mountRest.with [
  ("name", .required .text), ("mountPath", .required .text)]

/-- A container without its name, its image and its mounts. -/
def containerRest : Fields := [
  ("args", .list .text), ("command", .list .text), ("env", .list (.record envVariable)),
  ("envFrom", .list (.record variablesSource)), ("imagePullPolicy", .text),
  ("lifecycle", .record lifecycle), ("livenessProbe", .record probe),
  ("ports", .list (.record port)), ("readinessProbe", .record probe),
  ("resizePolicy", .list (.record resizePolicy)), ("resources", .record resources),
  ("restartPolicy", .text), ("securityContext", .record securityContext),
  ("startupProbe", .record probe), ("stdin", .bool), ("stdinOnce", .bool),
  ("terminationMessagePath", .text), ("terminationMessagePolicy", .text), ("tty", .bool),
  ("volumeDevices", .list (.record device)), ("workingDir", .text)]

/-- A container. -/
def container : Fields := containerRest.with [
  ("name", .required .text), ("image", .text), ("volumeMounts", .list (.record mount))]

/-- A container that is added to a running pod. -/
def ephemeralContainer : Fields := container.with [
  ("targetContainerName", .text)]

end OsdMigration.Cluster.Form
