import OsdMigration.Text.Quoted

set_option autoImplicit false

/-! # Failures

Everything that can go wrong is a cause: a value of `Failure` that says what happened, with the
data that belongs to it. A failure can be annotated with the step during which it happened, any
number of times, and a wait that has lost patience wraps the failure it saw last. The wording
stands in `Failure.message`; whether trying again may help is decided by the category.
-/

namespace OsdMigration

/-- Why an operation did not succeed. -/
inductive Failure where
  /-- Something that should not occur. -/
  | internal (text : String)
  /-- Settings that make no sense. -/
  | settings (text : String)
  /-- A failure during a step of a longer operation. -/
  | during (step : String) (cause : Failure)
  /-- The API server did not answer as it should. -/
  | api (text : String)
  /-- An object that does not exist. -/
  | missing (kind name : String)
  /-- There is not exactly one pod to run commands in. -/
  | toolboxPods (count : Nat) (names : List String)
  /-- A pod whose label is no OSD number. -/
  | osdLabel (pod value : String)
  /-- Someone else wants a deployment to have another scale. -/
  | foreignScale (space name : String) (actual expected : Int)
  /-- A command could not be run. -/
  | unreachable (command pod reason : String)
  /-- A command ran and gave an exit code other than zero. -/
  | exitCode (code : Int) (pod command stderr : String)
  /-- A wait came to its deadline; what it saw last may be known. -/
  | timeout (operation : String) (last : Option String)
  /-- The caller cancelled. -/
  | cancelled (operation : String)
  /-- A wait lost patience after so many failures in a row. -/
  | repeated (operation : String) (attempts : Nat) (cause : Failure)
  /-- The output of a command could not be understood. -/
  | output (command text : String)
  /-- A JSON document could not be read. -/
  | json (text : String)
  /-- A YAML document could not be read. -/
  | yaml (text : String)
  /-- Reading or writing failed. -/
  | device (text : String)
deriving DecidableEq, Repr, Inhabited

namespace Failure

/-- Broad classes of failures. -/
inductive Category where
  /-- A call failed or its answer could not be read; the next one may succeed. -/
  | transient
  /-- A deadline passed. -/
  | timeout
  /-- The caller cancelled. -/
  | cancelled
  /-- Something is set up wrongly; trying again cannot help. -/
  | precondition
  /-- A command gave an exit code other than zero. -/
  | exitCode
deriving DecidableEq, Repr

/-- The class of a failure. Annotations do not change it. -/
def category : Failure → Category
  | .during _ cause => cause.category
  | .api _ | .unreachable .. | .json _ | .output .. | .device _ | .repeated .. => .transient
  | .timeout .. => .timeout
  | .cancelled _ => .cancelled
  | .exitCode .. => .exitCode
  | .missing .. | .toolboxPods .. | .osdLabel .. | .foreignScale .. | .settings _ | .yaml _
  | .internal _ => .precondition

/-- Whether the next attempt may succeed by itself. -/
def isTransient (f : Failure) : Bool := f.category = .transient

/-- Whether it is worth trying again. -/
def isRetryable (f : Failure) : Bool := f.category = .transient ∨ f.category = .exitCode

/-- Whether the caller cancelled. -/
def isCancelled (f : Failure) : Bool := f.category = .cancelled

/-- The failure without its annotations. -/
def root : Failure → Failure
  | .during _ cause => cause.root
  | f => f

/-- What a wait saw last, for the end of its message; an empty text is not shown. -/
def lastSeen : Option String → String
  | none => ""
  | some text => if text = "" then "" else ", currently " ++ Text.quote text

/-- The failure in words. -/
def message : Failure → String
  | .internal text => "Internal error: " ++ text
  | .settings text => "Configuration error: " ++ text
  | .during step cause => step ++ ": " ++ cause.message
  | .api text => "Kubernetes API error: " ++ text
  | .missing kind name => "Resource not found: " ++ kind ++ "/" ++ name
  | .toolboxPods count names =>
    "found " ++ toString count ++ " rook-ceph-tools pods, with names " ++ Text.quoteList names
      ++ ", expected 1"
  | .osdLabel pod value =>
    "unable to parse OSD number " ++ Text.quote value ++ " of pod " ++ Text.quote pod
  | .foreignScale space name actual expected =>
    "deployment " ++ space ++ ":" ++ name ++ " has scale " ++ toString actual ++ ", expected "
      ++ toString expected
  | .unreachable command pod reason =>
    "failed to run " ++ Text.quote command ++ " in " ++ pod ++ ": " ++ reason
  | .exitCode code pod command stderr =>
    "failed to run " ++ Text.quote command ++ " in " ++ pod ++ " with stderr "
      ++ Text.quote stderr ++ " with exit code " ++ toString code
  | .timeout operation last => "timed out waiting for " ++ operation ++ lastSeen last
  | .cancelled operation => "cancelled while waiting for " ++ operation
  | .repeated operation attempts cause =>
    "failed to " ++ operation ++ " " ++ toString attempts ++ " times in a row: " ++ cause.message
  | .output command text =>
    "unable to parse output of " ++ Text.quote command ++ ": " ++ Text.quote text
  | .json text => "JSON parse error: " ++ text
  | .yaml text => "YAML parse error: " ++ text
  | .device text => "IO error: " ++ text

/-- The class is that of the failure without its annotations. -/
@[simp] theorem category_root (f : Failure) : f.root.category = f.category := by
  induction f with
  | during step cause ih => exact ih
  | _ => rfl

end Failure

/-- A result, or the failure that prevented it. -/
abbrev Attempt (α : Type) : Type := Except Failure α

/-- The attempt with its failure annotated by a step. -/
def Attempt.during {α : Type} (step : String) : Attempt α → Attempt α
  | .ok a => .ok a
  | .error f => .error (.during step f)

end OsdMigration
