import OsdMigration.Json.Basic

set_option autoImplicit false

/-! # Values that can be read as a whole

A reader that skips a member takes it as it is. One that wants all of a value needs every part of
it to have a value, and it may follow arrays and objects down to some level only.
-/

namespace OsdMigration.Json

mutual

/-- Whether a value can be read as a whole. -/
def isReadable : Json → Bool
  | .num .huge | .unreadable => false
  | .arr items => areReadable items
  | .obj members => membersReadable members
  | _ => true

/-- Whether all items can be read. -/
def areReadable : List Json → Bool
  | [] => true
  | j :: rest => isReadable j && areReadable rest

/-- Whether the values of all members can be read. -/
def membersReadable : List (String × Json) → Bool
  | [] => true
  | (_, j) :: rest => isReadable j && membersReadable rest

end

mutual

/-- The value with `n` levels at most: an array or an object inside `n` others is made
unreadable. -/
def clip : Nat → Json → Json
  | 0, .arr _ | 0, .obj _ => .unreadable
  | n + 1, .arr items => .arr (clipItems n items)
  | n + 1, .obj members => .obj (clipMembers n members)
  | _, j => j

/-- The items, each clipped. -/
def clipItems : Nat → List Json → List Json
  | _, [] => []
  | n, j :: rest => clip n j :: clipItems n rest

/-- The members, the value of each clipped. -/
def clipMembers : Nat → List (String × Json) → List (String × Json)
  | _, [] => []
  | n, (name, j) :: rest => (name, clip n j) :: clipMembers n rest

end

end OsdMigration.Json
