import OsdMigration.Text.FormEncoding

set_option autoImplicit false

/-! # Targets of HTTP requests

A target is written as a path and a query behind a question mark; what follows a hash is not a
part of it. Only some of the visible ASCII characters may stand in it as they are, and names are
put into a path as they are: a name with a character that ends the path makes another target.
-/

namespace OsdMigration.ApiServer

/-- Where a request goes: a path, and the pairs of a query. -/
structure Target where
  path : String
  query : List (String × String)
deriving DecidableEq, Repr

namespace Target

/-- Why a text is no target. -/
inductive Fault where
  | character
  | length
deriving DecidableEq, Repr

/-- The fault in words. -/
def Fault.message : Fault → String
  | .character => "invalid uri character"
  | .length => "uri too long"

/-- Whether the character is one of ASCII that can be seen. -/
def isVisible (c : Char) : Bool := '!' ≤ c && c ≤ '~'

/-- Whether the character may stand in a path. -/
def inPath (c : Char) : Bool := isVisible c && c ∉ ['#', '<', '>', '?', '\x60']

/-- Whether the character may stand in a query. -/
def inQuery (c : Char) : Bool := isVisible c && c ∉ ['"', '#', '<', '>']

/-- The number of bytes a target may have, with what is cut off from it. -/
def maxSize : Nat := 65534

/-- The target of a text. -/
def ofText (text : String) : Except Fault Target :=
  if maxSize < text.utf8ByteSize then .error .length
  else
    let cs := text.toList.takeWhile (· ≠ '#')
    let (path, query) := (Text.cutAt? '?' cs).getD (cs, [])
    if path.all inPath && query.all inQuery then
      .ok ⟨String.ofList path, Text.FormEncoding.decodePairs query⟩
    else .error .character

end Target

end OsdMigration.ApiServer
