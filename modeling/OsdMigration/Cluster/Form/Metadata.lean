import OsdMigration.Json.Shape

set_option autoImplicit false

/-! # The form of metadata

The metadata of objects and of lists of objects, and references and selectors that stand in many
places.
-/

namespace OsdMigration.Cluster.Form

/-- The fields of a record, in the order of their names. -/
abbrev Fields := List (String × Json.Shape)

/-- The fields with more of them. -/
def Fields.with (fields more : Fields) : Fields :=
  more.foldl (fun fields f => NameMap.put f.1 f.2 fields) fields

/-- A reference to the owner of an object. -/
def ownerReference : Fields := [
  ("apiVersion", .required .text), ("blockOwnerDeletion", .bool), ("controller", .bool),
  ("kind", .required .text), ("name", .required .text), ("uid", .required .text)]

/-- What one manager of an object has set. -/
def managedFields : Fields := [
  ("apiVersion", .text), ("fieldsType", .text), ("fieldsV1", .any), ("manager", .text),
  ("operation", .text), ("subresource", .text), ("time", .time)]

/-- A demand on a label, and in other places on a name. -/
def requirement : Fields := [
  ("key", .required .text), ("operator", .required .text), ("values", .list .text)]

/-- A selector of labels. -/
def labelSelector : Fields := [
  ("matchExpressions", .list (.record requirement)), ("matchLabels", .map .text)]

/-- A reference to an object in the same namespace. -/
def localReference : Fields := [("name", .text)]

/-- The metadata of an object without its name, its namespace and its labels. -/
def metadataRest : Fields := [
  ("annotations", .map .text), ("creationTimestamp", .time),
  ("deletionGracePeriodSeconds", .int64), ("deletionTimestamp", .time),
  ("finalizers", .list .text), ("generateName", .text), ("generation", .int64),
  ("managedFields", .list (.record managedFields)),
  ("ownerReferences", .list (.record ownerReference)), ("resourceVersion", .text),
  ("selfLink", .text), ("uid", .text)]

/-- The metadata of an object. -/
def metadata : Fields := metadataRest.with [
  ("name", .text), ("namespace", .text), ("labels", .map .text)]

/-- The metadata of a list of objects. -/
def listMetadata : Fields := [
  ("continue", .text), ("remainingItemCount", .int64), ("resourceVersion", .text),
  ("selfLink", .text)]

end OsdMigration.Cluster.Form
