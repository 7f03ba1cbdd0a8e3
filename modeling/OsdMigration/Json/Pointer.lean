import OsdMigration.Json.Basic
import OsdMigration.NameMap
import OsdMigration.Text.Numeral
import OsdMigration.Text.Split

set_option autoImplicit false

/-! # Pointers into a value

A pointer is a text such as `/spec/storage`: each step behind a slash names a member of an object
or the place of an item of an array. The empty pointer means the whole value. Within a step `~1`
stands for a slash and `~0` for a tilde. Objects are taken with their members in the order of
names, and changes keep that order.
-/

namespace OsdMigration.Json

/-- The steps of a pointer. -/
abbrev Pointer := List String

namespace Pointer

/-- Every `~1` of the step read as a slash. -/
def unescapeSlash : List Char → List Char
  | '~' :: '1' :: rest => '/' :: unescapeSlash rest
  | c :: rest => c :: unescapeSlash rest
  | [] => []

/-- Every `~0` of the step read as a tilde. -/
def unescapeTilde : List Char → List Char
  | '~' :: '0' :: rest => '~' :: unescapeTilde rest
  | c :: rest => c :: unescapeTilde rest
  | [] => []

/-- The text of one step read: slashes first, then tildes. -/
def unescape (cs : List Char) : String :=
  String.ofList (unescapeTilde (unescapeSlash cs))

/-- The pointer of a text; a text that is neither empty nor begins with a slash is none. -/
def ofText? (s : String) : Option Pointer :=
  if s = "" then some []
  else
    match Text.splitAt '/' s.toList with
    | [] :: steps => some (steps.map unescape)
    | _ => none

/-- The place a step names in an array: digits without a leading zero. -/
def index? (step : String) : Option Nat :=
  match step.toList with
  | '0' :: _ :: _ => none
  | '+' :: _ => none
  | cs => (Text.digits? cs).bind fun n => if n < UInt64.size then some n else none

end Pointer

/-! ## Looking and changing -/

/-- The value a step leads to. -/
def child? (j : Json) (step : String) : Option Json :=
  match j with
  | .obj members => members.lookup step
  | .arr items => (Pointer.index? step).bind fun i => items[i]?
  | _ => none

/-- The value a pointer leads to. -/
def lookup? (j : Json) : Pointer → Option Json
  | [] => some j
  | step :: rest => (j.child? step).bind fun k => k.lookup? rest

/-- The value with the child at a step replaced, given that the child is there. -/
def setChild (j : Json) (step : String) (k : Json) : Json :=
  match j with
  | .obj members => .obj (NameMap.put step k members)
  | .arr items =>
    match Pointer.index? step with
    | some i => .arr (items.set i k)
    | none => j
  | _ => j

/-- The value with the part at a pointer changed by `f`; nothing if the pointer leads nowhere or
`f` refuses. -/
def modify? (j : Json) (f : Json → Option Json) : Pointer → Option Json
  | [] => f j
  | step :: rest => do
    let k ← j.child? step
    let k' ← k.modify? f rest
    pure (j.setChild step k')

end OsdMigration.Json
