import OsdMigration.Json.Basic
import OsdMigration.NameMap

set_option autoImplicit false

/-! # Values up to the order of members

Most programs take an object for a map: the order of its members means nothing, and the last of a
repeated name counts. The canonical form of a value has the members of every object in the order
of their names, each name once, so two values that mean the same have the same form.
-/

namespace OsdMigration.Json

mutual

/-- The value with the members of every object in the order of their names. -/
def canonical : Json → Json
  | .arr items => .arr (canonicalItems items)
  | .obj members => .obj (NameMap.ofList (canonicalMembers members)).pairs
  | j => j

/-- The items, each in canonical form. -/
def canonicalItems : List Json → List Json
  | [] => []
  | j :: rest => canonical j :: canonicalItems rest

/-- The members in the order they stand, each value in canonical form. -/
def canonicalMembers : List (String × Json) → List (String × Json)
  | [] => []
  | (name, j) :: rest => (name, canonical j) :: canonicalMembers rest

end

mutual

/-- Whether two values mean the same: numbers as `Number.same` compares them, members of objects
in any order of theirs, given that both values are canonical. -/
def same : Json → Json → Bool
  | .null, .null => true
  | .bool a, .bool b => a == b
  | .num a, .num b => a.same b
  | .str a, .str b => a == b
  | .arr as, .arr bs => sameItems as bs
  | .obj as, .obj bs => sameMembers as bs
  | _, _ => false

/-- Whether two lists of items mean the same, one by one. -/
def sameItems : List Json → List Json → Bool
  | [], [] => true
  | a :: as, b :: bs => same a b && sameItems as bs
  | _, _ => false

/-- Whether two lists of members mean the same, one by one. -/
def sameMembers : List (String × Json) → List (String × Json) → Bool
  | [], [] => true
  | (m, a) :: as, (n, b) :: bs => m == n && same a b && sameMembers as bs
  | _, _ => false

end

end OsdMigration.Json
