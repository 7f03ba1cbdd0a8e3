import OsdMigration.Json.Basic
import OsdMigration.Text.Quoted

set_option autoImplicit false

/-! # Writing JSON text

A value is written without any space. A text escapes its quotes, backslashes and controls and
leaves every other character as it is.
-/

namespace OsdMigration.Json

/-- One character of a text. -/
def escapeChar (c : Char) : List Char :=
  if c = '"' then ['\\', '"']
  else if c = '\\' then ['\\', '\\']
  else if c = '\x08' then ['\\', 'b']
  else if c = '\x0c' then ['\\', 'f']
  else if c = '\n' then ['\\', 'n']
  else if c = '\r' then ['\\', 'r']
  else if c = '\t' then ['\\', 't']
  else if c < ' ' then
    let digits := Text.hexDigits c.toNat
    ['\\', 'u'] ++ List.replicate (4 - digits.length) '0' ++ digits
  else [c]

/-- A text between its quotes. -/
def renderText (s : String) : String :=
  String.ofList (['"'] ++ s.toList.flatMap escapeChar ++ ['"'])

/-- A number. -/
def Number.render : Number → String
  | .whole i => toString i
  | .real x => x.text
  | .huge => "null"

mutual

/-- The text of a value. A value without a text of its own is written as null. -/
def render : Json → String
  | .null => "null"
  | .bool true => "true"
  | .bool false => "false"
  | .num n => n.render
  | .str s => renderText s
  | .arr items => "[" ++ renderItems items ++ "]"
  | .obj members => "\x7b" ++ renderMembers members ++ "\x7d"
  | .unreadable => "null"

/-- The items of an array with commas between them. -/
def renderItems : List Json → String
  | [] => ""
  | [j] => render j
  | j :: k :: rest => render j ++ "," ++ renderItems (k :: rest)

/-- The members of an object with commas between them. -/
def renderMembers : List (String × Json) → String
  | [] => ""
  | [(name, j)] => renderText name ++ ":" ++ render j
  | (name, j) :: m :: rest =>
    renderText name ++ ":" ++ render j ++ "," ++ renderMembers (m :: rest)

end

end OsdMigration.Json
