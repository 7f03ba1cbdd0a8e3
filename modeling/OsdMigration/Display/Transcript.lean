import OsdMigration.Display.Line

set_option autoImplicit false

/-! # Lines kept and logged

Lines can be kept in memory, lasting and passing ones apart, or sent to a log, where passing lines
have the lower level.
-/

namespace OsdMigration

/-- The lines told so far. -/
structure Transcript where
  lasting : List String := []
  passing : List String := []
deriving DecidableEq, Repr

/-- The transcript with a line added. -/
def Transcript.add (t : Transcript) : Line → Transcript
  | .lasting text => { t with lasting := t.lasting ++ [text] }
  | .passing text => if text = "" then t else { t with passing := t.passing ++ [text] }

/-- The text of a lasting line. -/
def Line.lasting? : Line → Option String
  | .lasting text => some text
  | .passing _ => none

/-- The text of a passing line that says something. -/
def Line.passing? : Line → Option String
  | .lasting _ => none
  | .passing text => if text = "" then none else some text

/-- The transcript of lines. -/
def Transcript.ofLines (lines : List Line) : Transcript :=
  ⟨lines.filterMap Line.lasting?, lines.filterMap Line.passing?⟩

/-- An entry of a log. -/
structure LogEntry where
  level : String
  target : String
  text : String
deriving DecidableEq, Repr

/-- The target under which lines are logged. -/
def logTarget : String := "rook_migrate::progress"

/-- The entry of a line, if it has one. -/
def LogEntry.ofLine? : Line → Option LogEntry
  | .lasting text => some ⟨"INFO", logTarget, text⟩
  | .passing text => if text = "" then none else some ⟨"DEBUG", logTarget, text⟩

end OsdMigration
