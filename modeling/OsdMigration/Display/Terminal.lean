import OsdMigration.Display.Line

set_option autoImplicit false

/-! # Lines on a terminal

A lasting line ends with a line feed. A passing line is left open, so that the next passing line
can erase it; a lasting line closes it first.
-/

namespace OsdMigration.Terminal

/-- Erases the line that the cursor is on and goes to its beginning. -/
def eraseLine : String := "\x1b[2K\r"

/-- What is written for a line, and whether a passing line is open afterwards. -/
def write (isOpen : Bool) : Line → String × Bool
  | .lasting text => ((if isOpen then "\n" else "") ++ text ++ "\n", false)
  | .passing text =>
    if text = "" then ("", isOpen) else ((if isOpen then eraseLine else "") ++ text, true)

/-- What is written for lines. -/
def writeAll (isOpen : Bool) : List Line → String
  | [] => ""
  | l :: rest =>
    let (text, isOpen) := write isOpen l
    text ++ writeAll isOpen rest

end OsdMigration.Terminal
