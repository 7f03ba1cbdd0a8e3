import OsdMigration.Json.Token

set_option autoImplicit false

/-! # Reading JSON text

The tokens of a document are taken one by one; the arrays and objects that are still open wait on
a stack. Nesting is therefore limited by nothing but the length of the text.
-/

namespace OsdMigration.Json

/-- An open array or object, with the parts read so far in reverse order. A member whose name has
been read waits for its value. -/
inductive Frame where
  | array (before : List Json)
  | object (before : List (Option String × Json))
  | member (before : List (Option String × Json)) (name : Option String)

/-- What may come next. -/
inductive Stage where
  | value
  | itemOrEnd
  | nameOrEnd
  | name
  | colon (name : Option String)
  | after (j : Json)

/-- The object of the members, `unreadable` if one of the names is. -/
def ofMembers (members : List (Option String × Json)) : Json :=
  match members.mapM fun (name, j) => name.map fun n => (n, j) with
  | some named => .obj named
  | none => .unreadable

/-- The stage after a token at the start of a value, and the frame it opens, if it does. -/
def startValue : Token → Option (Stage × List Frame)
  | .openBracket => some (.itemOrEnd, [.array []])
  | .openBrace => some (.nameOrEnd, [.object []])
  | .null => some (.after .null, [])
  | .bool b => some (.after (.bool b), [])
  | .num n => some (.after (.num n), [])
  | .text (some s) => some (.after (.str s), [])
  | .text none => some (.after .unreadable, [])
  | _ => none

/-- One token. -/
def step : Stage → List Frame → Token → Option (Stage × List Frame)
  | .value, stack, t => (startValue t).map fun (stage, opened) => (stage, opened ++ stack)
  | .itemOrEnd, .array before :: stack, .closeBracket => some (.after (.arr before.reverse), stack)
  | .itemOrEnd, stack, t => (startValue t).map fun (stage, opened) => (stage, opened ++ stack)
  | .nameOrEnd, .object before :: stack, .closeBrace =>
    some (.after (ofMembers before.reverse), stack)
  | .nameOrEnd, stack, .text name => some (.colon name, stack)
  | .name, stack, .text name => some (.colon name, stack)
  | .colon name, .object before :: stack, .colon => some (.value, .member before name :: stack)
  | .after j, .array before :: stack, .comma => some (.value, .array (j :: before) :: stack)
  | .after j, .array before :: stack, .closeBracket =>
    some (.after (.arr (j :: before).reverse), stack)
  | .after j, .member before name :: stack, .comma =>
    some (.name, .object ((name, j) :: before) :: stack)
  | .after j, .member before name :: stack, .closeBrace =>
    some (.after (ofMembers ((name, j) :: before).reverse), stack)
  | _, _, _ => none

/-- All tokens; at the end one value must be complete and nothing open. -/
def ofTokens? : Stage → List Frame → List Token → Option Json
  | .after j, [], [] => some j
  | _, _, [] => none
  | stage, stack, t :: ts =>
    match step stage stack t with
    | some (stage', stack') => ofTokens? stage' stack' ts
    | none => none

/-- The value of a JSON text. -/
def parse? (s : String) : Option Json :=
  (Token.scan? s.toList).bind (ofTokens? .value [])

end OsdMigration.Json
