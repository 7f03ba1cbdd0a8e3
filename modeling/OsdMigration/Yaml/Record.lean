import OsdMigration.Yaml.Basic

set_option autoImplicit false

/-! # Records

A record is written as a mapping with scalars for keys, in which entries with unknown keys are
skipped and no known one may be repeated; a document without content is a record without fields.
-/

namespace OsdMigration.Yaml

/-- The scalar of a node. -/
def scalar? : Yaml → Option Scalar
  | .scalar s => some s
  | _ => none

/-- The text of a scalar, however it was written. -/
def text? (y : Yaml) : Option String := y.scalar?.map Scalar.text

/-- A number of the unsigned 32-bit range. -/
def uint32? (y : Yaml) : Option UInt32 := y.scalar?.bind Scalar.uint32?

/-- A number of the unsigned 64-bit range. -/
def uint64? (y : Yaml) : Option UInt64 := y.scalar?.bind Scalar.uint64?

/-- The value of one name among the entries: none, one, or a repetition. -/
def single? (entries : List (Yaml × Yaml)) (name : String) : Option (Option Yaml) :=
  match entries.filter fun e => e.1.text? = some name with
  | [] => some none
  | [e] => some (some e.2)
  | _ => none

/-- The values of the fields of a record in their order. -/
def record? (fields : List String) : Yaml → Option (List (Option Yaml))
  | .mapping entries =>
    if entries.all fun e => e.1.text?.isSome then fields.mapM (single? entries) else none
  | .scalar ⟨.plain, _, ""⟩ => some (List.replicate fields.length none)
  | _ => none

end OsdMigration.Yaml
