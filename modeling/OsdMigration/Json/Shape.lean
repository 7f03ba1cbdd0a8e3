import OsdMigration.Json.Canonical
import OsdMigration.Json.Readable
import OsdMigration.Json.Record
import OsdMigration.Text.Timestamp

set_option autoImplicit false

/-! # Shapes of values

What a value may look like, where a program knows this although it does not look at the value. A
value of a shape has a normal form: members that are not known are left out and so are nulls,
points in time have their standard text, and members stand in the order of the shape. A record
has any of its members; one that is required is there in the normal form whether it was written
or not. A member may be repeated, and then each of its values must have the shape, but the last
one counts.
-/

namespace OsdMigration

open Text (Timestamp)

/-- What a value may look like. -/
inductive Json.Shape where
  | text
  | bool
  | int32
  | int64
  | time
  | intOrText
  | any
  | list (item : Json.Shape)
  | map (value : Json.Shape)
  | record (fields : List (String × Json.Shape))
  | required (shape : Json.Shape)
deriving Repr

namespace Json

/-- The values of a member, each of which can be read; the last one, unless it is null or there is
none. -/
def lastOf? {α : Type} (read : Json → Option α) (members : List (String × Json)) (name : String) :
    Option (Option α) :=
  ((members.filter fun m => m.1 = name).mapM fun m => nullable? read m.2).map fun values =>
    values.getLast?.join

namespace Shape

mutual

/-- The value of a required member that was not written: empty, zero or false. -/
def default : Shape → Json
  | .bool => .bool false
  | .int32 | .int64 | .intOrText => ofInt 0
  | .list _ => .arr []
  | .map _ => .obj []
  | .record fields => .obj (defaults fields)
  | .required s => default s
  | .any => .null
  | .text | .time => .str ""

/-- The required members of a record. -/
def defaults : List (String × Shape) → List (String × Json)
  | [] => []
  | (name, .required s) :: rest => (name, default s) :: defaults rest
  | _ :: rest => defaults rest

end

/-- What a member that was not written stands for. -/
def absent? : Shape → Option Json
  | .required s => some s.default
  | _ => none

mutual

/-- The normal form of a value, if it has the shape. -/
def read? : Shape → Json → Option Json
  | .text, j => j.text?.map .str
  | .bool, j => j.bool?.map .bool
  | .int32, j => j.int32?.map ofInt
  | .int64, j => (j.intIn? (-9223372036854775808) 9223372036854775807).map ofInt
  | .time, j => (j.text?.bind Timestamp.ofText?).map fun t => .str t.text
  | .intOrText, .str s => some (.str s)
  | .intOrText, j => j.int32?.map ofInt
  | .any, j => if j.isReadable then some j.canonical else none
  | .list s, .arr items => (items.mapM fun j => read? s j).map .arr
  | .map s, .obj members =>
    (members.mapM fun m => (read? s m.2).map fun j => (m.1, j)).map fun ms =>
      .obj (NameMap.ofList ms).pairs
  | .record fields, .obj members => (readFields? fields members).map .obj
  | .required s, j => read? s j
  | _, _ => none

/-- The members of a record in normal form. -/
def readFields? : List (String × Shape) → List (String × Json) → Option (List (String × Json))
  | [], _ => some []
  | (name, s) :: rest, members => do
    let value ← lastOf? (fun j => read? s j) members name
    let others ← readFields? rest members
    pure (((value <|> s.absent?).map fun j => (name, j)).toList ++ others)

end

end Shape

end Json

end OsdMigration
