import OsdMigration.Json.Equality
import OsdMigration.Json.Shape

set_option autoImplicit false

/-! # Members that are carried along

A program looks at some members of a record and carries the others along, to write them back as
they were. They are kept in the normal form of their shapes, so reading what was written gives
them again.
-/

namespace OsdMigration.Json

/-- Members of a record with the given fields, in normal form. -/
structure Rest (fields : List (String × Shape)) where
  members : List (String × Json)
  normal : Shape.readFields? fields members = some members

namespace Rest

variable {fields : List (String × Shape)}

@[ext] theorem ext {r s : Rest fields} (h : r.members = s.members) : r = s := by
  cases r; cases s; cases h; rfl

instance : DecidableEq (Rest fields) := fun r s =>
  decidable_of_iff (r.members = s.members) ⟨ext, fun h => by rw [h]⟩

instance : Repr (Rest fields) := ⟨fun r n => reprPrec r.members n⟩

/-- The members with these fields among all members, if each has its shape. -/
def ofMembers? (fields : List (String × Shape)) (members : List (String × Json)) :
    Option (Rest fields) := do
  let kept ← Shape.readFields? fields members
  -- a normal form has itself as its normal form
  if h : Shape.readFields? fields kept = some kept then some ⟨kept, h⟩ else none

end Rest

end OsdMigration.Json
