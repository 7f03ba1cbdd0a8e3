import OsdMigration.CommandLine

set_option autoImplicit false

/-! # The program

Reads the arguments and the file of settings, rehearses what is asked for and prints what is shown.
-/

open OsdMigration

/-- The text of a file, if there is one. -/
def readIfPresent (path : String) : IO (Option String) := do
  try
    let text ← IO.FS.readFile path
    pure (some text)
  catch _ => pure none

/-- The settings of the file that the arguments name. -/
def loadSettings (file : Option String) : IO (Attempt Settings) :=
  match file with
  | none => pure (.ok .standard)
  | some path => do
    let text ← readIfPresent path
    pure (Settings.ofFile text)

/-- Runs the program. -/
def main (args : List String) : IO UInt32 := do
  match Arguments.parse? args with
  | none =>
    IO.eprintln Arguments.usage
    pure 2
  | some arguments =>
    let loaded ← loadSettings arguments.settingsFile
    match loaded.bind arguments.settings with
    | .error f =>
      IO.eprintln ("Error: " ++ f.message)
      pure 1
    | .ok settings =>
      let showing := arguments.action.rehearse settings arguments.plain
      IO.print showing.output
      if let some text := showing.failure then IO.eprintln ("Error: " ++ text)
      pure showing.exitCode
