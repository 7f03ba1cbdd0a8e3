import OsdMigration.Json.Basic
import OsdMigration.NameMap

set_option autoImplicit false

/-! # Reading values

How the parts of a document are taken for numbers, texts, lists, maps and records. A record is
written as an object, where unknown members are skipped and no known one may be repeated, or as
an array of its fields in their order, where fields at the end may be left out. A map is written
as an object, where the last of a repeated name counts. Nothing but a skipped member may be
unreadable.
-/

namespace OsdMigration.Json

/-! ## Single values -/

/-- A text. -/
def text? : Json → Option String
  | .str s => some s
  | _ => none

/-- A truth value. -/
def bool? : Json → Option Bool
  | .bool b => some b
  | _ => none

/-- A whole number. -/
def int? : Json → Option Int
  | .num (.whole i) => some i
  | _ => none

/-- A whole number from `low` to `high`. -/
def intIn? (low high : Int) (j : Json) : Option Int :=
  j.int?.bind fun i => if low ≤ i ∧ i ≤ high then some i else none

/-- A whole number of the unsigned 32-bit range. -/
def uint32? (j : Json) : Option UInt32 :=
  (j.intIn? 0 4294967295).map fun i => UInt32.ofNat i.toNat

/-- A whole number of the unsigned 64-bit range. -/
def uint64? (j : Json) : Option UInt64 :=
  (j.intIn? 0 18446744073709551615).map fun i => UInt64.ofNat i.toNat

/-- A whole number of the signed 32-bit range. -/
def int32? (j : Json) : Option Int := j.intIn? (-2147483648) 2147483647

/-- A double precision number. -/
def binary64? : Json → Option Number.Binary64
  | .num n => n.toBinary64?
  | _ => none

/-! ## Lists, maps, optional values -/

variable {α : Type}

/-- A list of values that can all be read. -/
def list? (read : Json → Option α) : Json → Option (List α)
  | .arr items => items.mapM read
  | _ => none

/-- A map of values that can all be read. -/
def map? (read : Json → Option α) : Json → Option (NameMap α)
  | .obj members =>
    (members.mapM fun m => (read m.2).map fun a => (m.1, a)).map NameMap.ofList
  | _ => none

/-- A value that may also be null. -/
def nullable? (read : Json → Option α) : Json → Option (Option α)
  | .null => some none
  | j => (read j).map some

/-! ## Records -/

/-- The values of one name: none, one, or a repetition. -/
def single? (members : List (String × Json)) (name : String) : Option (Option Json) :=
  match members.filter (fun m => m.1 = name) with
  | [] => some none
  | [m] => some (some m.2)
  | _ => none

/-- The values of the fields in their order, each present or not; nothing if the value is no
record with these fields. -/
def record? (fields : List String) : Json → Option (List (Option Json))
  | .obj members => fields.mapM (single? members)
  | .arr items =>
    if items.length ≤ fields.length then
      some (items.map some ++ List.replicate (fields.length - items.length) none)
    else none
  | _ => none

/-- A field that has a default. -/
def field? (slot : Option Json) (read : Json → Option α) (default : α) : Option α :=
  match slot with
  | none => some default
  | some j => read j

/-- A field that must be present. -/
def required? (slot : Option Json) (read : Json → Option α) : Option α := slot.bind read

end OsdMigration.Json
