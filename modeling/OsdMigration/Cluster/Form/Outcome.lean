import OsdMigration.Cluster.Form.Metadata

set_option autoImplicit false

/-! # The form of outcomes

What a request has come to.
-/

namespace OsdMigration.Cluster.Form

/-- A cause without its reason and its message. -/
def causeRest : Fields := [("field", .text)]

/-- The details of an outcome without the causes. -/
def detailsRest : Fields := [
  ("group", .text), ("kind", .text), ("name", .text), ("retryAfterSeconds", .int32),
  ("uid", .text)]

/-- The outcome of a request without what it says about it. -/
def outcomeRest : Fields := [("code", .int32), ("metadata", .required (.record listMetadata))]

end OsdMigration.Cluster.Form
