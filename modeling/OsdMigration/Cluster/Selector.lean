import OsdMigration.Cluster.Object
import OsdMigration.Text.Split

set_option autoImplicit false

/-! # Label selectors

A selector is a list of terms separated by commas. A term `key=value` asks for a label with
that value, a term without an equals sign for a label of any value; empty terms ask for nothing.
Every label map has a selector that asks for exactly its pairs.
-/

namespace OsdMigration.Cluster

/-- One demand on the labels of an object. -/
inductive Selector.Term where
  | equals (key value : String)
  | present (key : String)
deriving DecidableEq, Repr

/-- A list of demands, all of which have to be met. -/
abbrev Selector := List Selector.Term

namespace Selector

/-- The demand of a term. The first equals sign separates the key from the value. -/
def Term.ofText (s : String) : Term :=
  match Text.cutAt? '=' s.toList with
  | some (key, value) => .equals (String.ofList key) (String.ofList value)
  | none => .present s

/-- The selector of a text. -/
def ofText (s : String) : Selector := ((Text.split ',' s).filter (· ≠ "")).map Term.ofText

/-- Whether labels meet a demand. -/
def Term.accepts (labels : Labels) : Term → Bool
  | .equals key value => labels.get? key == some value
  | .present key => labels.contains key

/-- Whether labels meet every demand. -/
def accepts (s : Selector) (labels : Labels) : Bool := s.all fun t => t.accepts labels

/-- The selector text that asks for every pair of a label map. -/
def encode (labels : Labels) : String :=
  String.intercalate "," (labels.pairs.map fun p => p.1 ++ "=" ++ p.2)

end Selector

/-- Whether a pod is selected by a selector text. -/
def Pod.selectedBy (p : Pod) (selector : String) : Bool :=
  (Selector.ofText selector).accepts p.labels

end OsdMigration.Cluster
