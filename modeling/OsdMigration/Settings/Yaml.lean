import OsdMigration.Settings.Json
import OsdMigration.Yaml.Document
import OsdMigration.Yaml.Record

set_option autoImplicit false

/-! # Settings as YAML

A file of settings is a YAML document with any of the fields; a field that is left out keeps its
standard value. Settings that make no sense are refused after reading.
-/

namespace OsdMigration.Settings

/-- The settings of a YAML node. -/
def ofYaml? (y : Yaml) : Option Settings :=
  (Yaml.record? fieldNames y).bind (ofSlots? Yaml.text? Yaml.uint32? Yaml.uint64?)

/-- The settings of a file with the given text; `none` if there is no such file. -/
def ofFile (contents : Option String) : Attempt Settings := do
  match contents with
  | none => .error (.device "No such file or directory (os error 2)")
  | some text =>
    match (Yaml.parse? text).bind ofYaml? with
    | none => .error (.yaml "not a document of settings")
    | some settings =>
      settings.check
      pure settings

end OsdMigration.Settings
