import OsdMigration.Cluster.Form.Container

set_option autoImplicit false

/-! # The form of volumes

The volumes of a pod, of many kinds.
-/

namespace OsdMigration.Cluster.Form

/-- A key written to a path. -/
def path : Fields := [("key", .required .text), ("mode", .int32), ("path", .required .text)]

/-- A field of the pod written to a path. -/
def ownPath : Fields := [
  ("fieldRef", .record fieldSelector), ("mode", .int32), ("path", .required .text),
  ("resourceFieldRef", .record resourceFieldSelector)]

/-- A reference with the kind of the object. -/
def typedReference : Fields := [
  ("apiGroup", .text), ("kind", .required .text), ("name", .required .text)]

/-- A reference to an object of another namespace. -/
def farReference : Fields := [
  ("apiGroup", .text), ("kind", .required .text), ("name", .required .text), ("namespace", .text)]

/-- The resources of a volume. -/
def volumeResources : Fields := [("limits", .map .text), ("requests", .map .text)]

/-- What is asked of a volume. -/
def claim : Fields := [
  ("accessModes", .list .text), ("dataSource", .record typedReference),
  ("dataSourceRef", .record farReference), ("resources", .record volumeResources),
  ("selector", .record labelSelector), ("storageClassName", .text),
  ("volumeAttributesClassName", .text), ("volumeMode", .text), ("volumeName", .text)]

/-- A template of claims. -/
def claimTemplate : Fields := [
  ("metadata", .record metadata), ("spec", .required (.record claim))]

/-- One source of a projected volume. -/
def projection : Fields := [
  ("clusterTrustBundle", .record [
    ("labelSelector", .record labelSelector), ("name", .text), ("optional", .bool),
    ("path", .required .text), ("signerName", .text)]),
  ("configMap", .record [("items", .list (.record path)), ("name", .text), ("optional", .bool)]),
  ("downwardAPI", .record [("items", .list (.record ownPath))]),
  ("secret", .record [("items", .list (.record path)), ("name", .text), ("optional", .bool)]),
  ("serviceAccountToken", .record [
    ("audience", .text), ("expirationSeconds", .int64), ("path", .required .text)])]

/-- A volume. -/
def volume : Fields := [
  ("awsElasticBlockStore", .record [
    ("fsType", .text), ("partition", .int32), ("readOnly", .bool),
    ("volumeID", .required .text)]),
  ("azureDisk", .record [
    ("cachingMode", .text), ("diskName", .required .text), ("diskURI", .required .text),
    ("fsType", .text), ("kind", .text), ("readOnly", .bool)]),
  ("azureFile", .record [
    ("readOnly", .bool), ("secretName", .required .text), ("shareName", .required .text)]),
  ("cephfs", .record [
    ("monitors", .required (.list .text)), ("path", .text), ("readOnly", .bool),
    ("secretFile", .text), ("secretRef", .record localReference), ("user", .text)]),
  ("cinder", .record [
    ("fsType", .text), ("readOnly", .bool), ("secretRef", .record localReference),
    ("volumeID", .required .text)]),
  ("configMap", .record [
    ("defaultMode", .int32), ("items", .list (.record path)), ("name", .text),
    ("optional", .bool)]),
  ("csi", .record [
    ("driver", .required .text), ("fsType", .text),
    ("nodePublishSecretRef", .record localReference), ("readOnly", .bool),
    ("volumeAttributes", .map .text)]),
  ("downwardAPI", .record [("defaultMode", .int32), ("items", .list (.record ownPath))]),
  ("emptyDir", .record [("medium", .text), ("sizeLimit", .text)]),
  ("ephemeral", .record [("volumeClaimTemplate", .record claimTemplate)]),
  ("fc", .record [
    ("fsType", .text), ("lun", .int32), ("readOnly", .bool), ("targetWWNs", .list .text),
    ("wwids", .list .text)]),
  ("flexVolume", .record [
    ("driver", .required .text), ("fsType", .text), ("options", .map .text), ("readOnly", .bool),
    ("secretRef", .record localReference)]),
  ("flocker", .record [("datasetName", .text), ("datasetUUID", .text)]),
  ("gcePersistentDisk", .record [
    ("fsType", .text), ("partition", .int32), ("pdName", .required .text), ("readOnly", .bool)]),
  ("gitRepo", .record [
    ("directory", .text), ("repository", .required .text), ("revision", .text)]),
  ("glusterfs", .record [
    ("endpoints", .required .text), ("path", .required .text), ("readOnly", .bool)]),
  ("hostPath", .record [("path", .required .text), ("type", .text)]),
  ("iscsi", .record [
    ("chapAuthDiscovery", .bool), ("chapAuthSession", .bool), ("fsType", .text),
    ("initiatorName", .text), ("iqn", .required .text), ("iscsiInterface", .text),
    ("lun", .required .int32), ("portals", .list .text), ("readOnly", .bool),
    ("secretRef", .record localReference), ("targetPortal", .required .text)]),
  ("name", .required .text),
  ("nfs", .record [("path", .required .text), ("readOnly", .bool), ("server", .required .text)]),
  ("persistentVolumeClaim", .record [("claimName", .required .text), ("readOnly", .bool)]),
  ("photonPersistentDisk", .record [("fsType", .text), ("pdID", .required .text)]),
  ("portworxVolume", .record [
    ("fsType", .text), ("readOnly", .bool), ("volumeID", .required .text)]),
  ("projected", .record [("defaultMode", .int32), ("sources", .list (.record projection))]),
  ("quobyte", .record [
    ("group", .text), ("readOnly", .bool), ("registry", .required .text), ("tenant", .text),
    ("user", .text), ("volume", .required .text)]),
  ("rbd", .record [
    ("fsType", .text), ("image", .required .text), ("keyring", .text),
    ("monitors", .required (.list .text)), ("pool", .text), ("readOnly", .bool),
    ("secretRef", .record localReference), ("user", .text)]),
  ("scaleIO", .record [
    ("fsType", .text), ("gateway", .required .text), ("protectionDomain", .text),
    ("readOnly", .bool), ("secretRef", .required (.record localReference)), ("sslEnabled", .bool),
    ("storageMode", .text), ("storagePool", .text), ("system", .required .text),
    ("volumeName", .text)]),
  ("secret", .record [
    ("defaultMode", .int32), ("items", .list (.record path)), ("optional", .bool),
    ("secretName", .text)]),
  ("storageos", .record [
    ("fsType", .text), ("readOnly", .bool), ("secretRef", .record localReference),
    ("volumeName", .text), ("volumeNamespace", .text)]),
  ("vsphereVolume", .record [
    ("fsType", .text), ("storagePolicyID", .text), ("storagePolicyName", .text),
    ("volumePath", .required .text)])]

end OsdMigration.Cluster.Form
