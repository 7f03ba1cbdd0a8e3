import OsdMigration.Json.Pointer
import OsdMigration.Json.Canonical

set_option autoImplicit false

/-! # Patches

A patch is a list of operations on a value, each of which adds, removes, replaces, moves, copies
or tests one part of it. The operations are applied in order to the result of the ones before;
the first that cannot be applied makes the whole patch fail.
-/

namespace OsdMigration.Json

/-- One operation. Pointers are kept as they were written. -/
inductive Operation where
  | add (path : String) (value : Json)
  | remove (path : String)
  | replace (path : String) (value : Json)
  | move (source path : String)
  | copy (source path : String)
  | test (path : String) (value : Json)
deriving Repr

/-- A list of operations. -/
abbrev Patch := List Operation

namespace Operation

/-- The path an operation works on. -/
def path : Operation → String
  | .add p _ | .remove p | .replace p _ | .move _ p | .copy _ p | .test p _ => p

/-- Why an operation cannot be applied. -/
inductive Obstacle where
  | path
  | source
  | insideItself
  | mismatch
deriving DecidableEq, Repr

/-- The obstacle in words. -/
def Obstacle.message : Obstacle → String
  | .path => "path is invalid"
  | .source => "\"from\" path is invalid"
  | .insideItself => "cannot move the value inside itself"
  | .mismatch => "value did not match"

/-- The pointer to the parent of a path, and the last step; the whole value has no parent. -/
def parent? (path : String) : Option (Pointer × String) :=
  (Pointer.ofText? path).bind fun steps =>
    steps.getLast?.map fun last => (steps.dropLast, last)

/-- Puts a value into an object or an array. In an array the value goes before the item at the
place, and `-` stands for the place behind the last item. -/
def insertInto? (last : String) (value parent : Json) : Option Json :=
  match parent with
  | .obj members => some (.obj (NameMap.put last value members))
  | .arr items =>
    if last = "-" then some (.arr (items ++ [value]))
    else
      (Pointer.index? last).bind fun i =>
        if i ≤ items.length then some (.arr (items.insertIdx i value)) else none
  | _ => none

/-- Takes a value out of an object or an array. -/
def takeFrom? (last : String) (parent : Json) : Option Json :=
  match parent with
  | .obj members =>
    if (members.lookup last).isSome then some (.obj (members.filter fun m => m.1 ≠ last)) else none
  | .arr items =>
    (Pointer.index? last).bind fun i =>
      if i < items.length then some (.arr (items.eraseIdx i)) else none
  | _ => none

/-- The value with another put at the path. -/
def addAt? (path : String) (value j : Json) : Option Json :=
  if path = "" then some value
  else (parent? path).bind fun (steps, last) => j.modify? (insertInto? last value) steps

/-- The value without the part at the path, and that part. -/
def removeAt? (path : String) (j : Json) : Option (Json × Json) := do
  let (steps, last) ← parent? path
  let part ← j.lookup? (steps ++ [last])
  let rest ← j.modify? (takeFrom? last) steps
  pure (rest, part)

/-- Whether the path leads into the part at the source. -/
def leadsInto (source path : String) : Bool := (source ++ "/").isPrefixOf path

/-- The value after the operation. -/
def apply (op : Operation) (j : Json) : Except Obstacle Json :=
  match op with
  | .add path value => (addAt? path value j).elim (.error .path) .ok
  | .remove path => (removeAt? path j).elim (.error .path) fun (rest, _) => .ok rest
  | .replace path value =>
    ((Pointer.ofText? path).bind (j.modify? fun _ => some value)).elim (.error .path) .ok
  | .move source path =>
    -- the part is taken out before it is put in, so the path is one of the rest
    if leadsInto source path then .error .insideItself
    else
      (removeAt? source j).elim (.error .source) fun (rest, part) =>
        (addAt? path part rest).elim (.error .path) .ok
  | .copy source path =>
    ((Pointer.ofText? source).bind j.lookup?).elim (.error .source) fun part =>
      (addAt? path part j).elim (.error .path) .ok
  | .test path value =>
    ((Pointer.ofText? path).bind j.lookup?).elim (.error .path) fun part =>
      if part.same value then .ok j else .error .mismatch

/-- The operation as a JSON value. -/
def toJson : Operation → Json
  | .add path value => .obj [("op", .str "add"), ("path", .str path), ("value", value)]
  | .remove path => .obj [("op", .str "remove"), ("path", .str path)]
  | .replace path value => .obj [("op", .str "replace"), ("path", .str path), ("value", value)]
  | .move source path =>
    .obj [("op", .str "move"), ("from", .str source), ("path", .str path)]
  | .copy source path =>
    .obj [("op", .str "copy"), ("from", .str source), ("path", .str path)]
  | .test path value => .obj [("op", .str "test"), ("path", .str path), ("value", value)]

/-- The operation a JSON value describes, if it has the members that its kind needs. -/
def ofJson? (j : Json) : Option Operation := do
  let text (name : String) : Option String :=
    match j.get? name with
    | some (.str s) => some s
    | _ => none
  match ← text "op" with
  | "add" => pure (.add (← text "path") (← j.get? "value").canonical)
  | "remove" => pure (.remove (← text "path"))
  | "replace" => pure (.replace (← text "path") (← j.get? "value").canonical)
  | "move" => pure (.move (← text "from") (← text "path"))
  | "copy" => pure (.copy (← text "from") (← text "path"))
  | "test" => pure (.test (← text "path") (← j.get? "value").canonical)
  | _ => none

end Operation

namespace Patch

/-- Why a patch cannot be applied: the place of the operation, the operation, and its obstacle. -/
structure Rejection where
  place : Nat
  operation : Operation
  obstacle : Operation.Obstacle

/-- The rejection in words. -/
def Rejection.message (r : Rejection) : String :=
  "Operation '/" ++ toString r.place ++ "' failed at path '" ++ r.operation.path ++ "': "
    ++ r.obstacle.message

/-- The value after the operations, the first of which stands at the given place. -/
def applyFrom (place : Nat) : Patch → Json → Except Rejection Json
  | [], j => .ok j
  | op :: rest, j =>
    match op.apply j with
    | .ok k => applyFrom (place + 1) rest k
    | .error o => .error ⟨place, op, o⟩

/-- The value after the whole patch. -/
def apply (p : Patch) (j : Json) : Except Rejection Json := applyFrom 0 p j

/-- The patch as a JSON value. -/
def toJson (p : Patch) : Json := .arr (p.map Operation.toJson)

/-- The patch a JSON value describes. -/
def ofJson? (j : Json) : Option Patch :=
  match j with
  | .arr items => items.mapM Operation.ofJson?
  | _ => none

end Patch

end OsdMigration.Json
