import OsdMigration.Json.Parser
import OsdMigration.Json.Record

set_option autoImplicit false

/-! # What a cluster stores its data on

The part of a cluster's specification that selects storage: whether every empty block device and
every node is used, and the directories that back OSDs. Each selection may be left out. Only what
is given is written, so a specification has one written form.
-/

namespace OsdMigration.Ceph

open Json (record? field? required? text? bool? list? nullable?)

/-- The storage selection. Directories are given by their paths. -/
structure StorageSpec where
  allDevices : Option Bool
  allNodes : Option Bool
  directories : Option (List String)
deriving DecidableEq, Repr

namespace StorageSpec

/-- The selection that says nothing. -/
def absent : StorageSpec := ⟨none, none, none⟩

/-- A directory: its path. -/
def directory? (j : Json) : Option String := do
  match ← record? ["path"] j with
  | [path] => required? path text?
  | _ => none

/-- The selection of a value. -/
def ofStorage? (j : Json) : Option StorageSpec := do
  match ← record? ["useAllDevices", "useAllNodes", "directories"] j with
  | [devices, nodes, directories] =>
    pure ⟨← field? devices (nullable? bool?) none, ← field? nodes (nullable? bool?) none,
      ← field? directories (nullable? (list? directory?)) none⟩
  | _ => none

/-- The specification of a value. -/
def ofJson? (j : Json) : Option StorageSpec := do
  match ← record? ["storage"] j with
  | [storage] => field? storage ofStorage? absent
  | _ => none

/-- The specification of a text. -/
def parse? (text : String) : Option StorageSpec := (Json.parse? text).bind ofJson?

/-- A member that is written only if it is given. -/
def given {α : Type} (name : String) (write : α → Json) (a : Option α) : List (String × Json) :=
  a.toList.map fun a => (name, write a)

/-- The specification as a value. -/
def toJson (s : StorageSpec) : Json :=
  .obj [("storage", .obj (
    given "useAllDevices" .bool s.allDevices ++ given "useAllNodes" .bool s.allNodes
      ++ given "directories" (fun ps => .arr (ps.map fun p => .obj [("path", .str p)]))
        s.directories))]

end StorageSpec

end OsdMigration.Ceph
