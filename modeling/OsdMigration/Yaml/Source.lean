set_option autoImplicit false

/-! # The text of a document

A document is read as a list of cells, one for each character, that know where they stand. Line
breaks are of five kinds; four of them are the same line feed, while the line separator and the
paragraph separator keep their own characters.
-/

namespace OsdMigration.Yaml

/-- A character with its place: the line, the column in it, and the bytes in front of it in its
line. -/
structure Cell where
  char : Char
  line : Nat
  column : Nat
  offset : Nat
deriving DecidableEq, Repr

/-- What is left of a text. -/
abbrev Source := List Cell

namespace Source

/-- Whether a character may stand in a document; most controls may not. -/
def isAllowed (c : Char) : Bool :=
  c == '\t' || c == '\n' || c == '\r' || (' ' ≤ c && c ≤ '~') || c == '\u0085'
    || ('\u00a0' ≤ c && c.toNat ≠ 0xfffe && c.toNat ≠ 0xffff)

/-- The cells of a text from the given place on. -/
def ofChars (line column offset : Nat) : List Char → Source
  | [] => []
  | '\r' :: '\n' :: rest => ⟨'\n', line, column, offset⟩ :: Source.ofChars (line + 1) 0 0 rest
  | c :: rest =>
    if c = '\r' ∨ c = '\n' ∨ c = '\u0085' then
      ⟨'\n', line, column, offset⟩ :: Source.ofChars (line + 1) 0 0 rest
    else if c = '\u2028' ∨ c = '\u2029' then
      ⟨c, line, column, offset⟩ :: Source.ofChars (line + 1) 0 0 rest
    else ⟨c, line, column, offset⟩ :: Source.ofChars line (column + 1) (offset + c.utf8Size) rest

/-- The cells of a text, if all its characters are allowed. -/
def ofText? (s : String) : Option Source :=
  if s.toList.all isAllowed then some (Source.ofChars 0 0 0 s.toList) else none

end Source

namespace Cell

/-- Whether the cell is a line break. -/
def isBreak (c : Cell) : Bool := c.char == '\n' || c.char == '\u2028' || c.char == '\u2029'

/-- Whether the cell separates words of a line. -/
def isBlank (c : Cell) : Bool := c.char == ' ' || c.char == '\t'

/-- Whether the cell separates words. -/
def isGap (c : Cell) : Bool := c.isBlank || c.isBreak

end Cell

namespace Source

/-- The first character. -/
def char? (cs : Source) : Option Char := cs.head?.map Cell.char

/-- Whether nothing but a gap or the end comes next. -/
def atGap (cs : Source) : Bool := cs.head?.all Cell.isGap

/-- Whether one of the characters comes next. -/
def atOneOf (marks : String) (cs : Source) : Bool := cs.char?.any marks.toList.contains

/-- What follows the blanks of a line. -/
def dropBlanks (cs : Source) : Source := cs.dropWhile Cell.isBlank

/-- What follows a comment, if there is one. -/
def dropComment (cs : Source) : Source :=
  if cs.char? = some '#' then cs.dropWhile fun c => !c.isBreak else cs

/-- The next line, if there is nothing but blanks and a comment in front of it. -/
def nextLine? (cs : Source) : Option Source :=
  match cs.dropBlanks.dropComment with
  | [] => some []
  | c :: rest => if c.isBreak then some rest else none

/-- The mark of a document boundary at the start of a line: three dashes, or three points, with
a gap behind. -/
def boundary? : Source → Option (Char × Source)
  | a :: b :: c :: rest =>
    if a.column = 0 ∧ (a.char = '-' ∨ a.char = '.') ∧ b.char = a.char ∧ c.char = a.char
        ∧ Source.atGap rest = true then
      some (a.char, rest)
    else none
  | _ => none

end Source

end OsdMigration.Yaml
