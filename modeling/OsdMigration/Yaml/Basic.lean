import OsdMigration.Yaml.Scalar

set_option autoImplicit false

/-! # YAML values

A YAML document is a tree of scalars, sequences and mappings. A scalar keeps its text, its style
and its tag; whether it may also be taken for a number depends on how it was written: a plain
scalar may, and a literal block if its tag says so.
-/

namespace OsdMigration

/-- A scalar. -/
structure Yaml.Scalar where
  style : Yaml.Style
  tag : Option String
  text : String
deriving DecidableEq, Repr

/-- A YAML node. An alias names the node it stands for by the number of its anchor. -/
inductive Yaml where
  | scalar (s : Yaml.Scalar)
  | sequence (items : List Yaml)
  | mapping (entries : List (Yaml × Yaml))
  | alias (anchor : Nat)
deriving Repr

namespace Yaml

/-- The scalar that is written as nothing. -/
def Scalar.empty (tag : Option String) : Scalar := ⟨.plain, tag, ""⟩

/-- The node of a value that was left out. -/
def absent : Yaml := .scalar (.empty none)

instance : Inhabited Yaml := ⟨absent⟩

/-- The number of a plain scalar: decimal digits without a zero in front, or digits in base
sixteen, eight or two behind `0x`, `0o` or `0b`; a plus sign may stand before either. -/
def natural? (s : String) : Option Nat :=
  let unsigned :=
    match s.toList with
    | '+' :: rest => rest
    | cs => cs
  match unsigned with
  | '0' :: 'x' :: rest => digitsIn? 16 rest
  | '0' :: 'o' :: rest => digitsIn? 8 rest
  | '0' :: 'b' :: rest => digitsIn? 2 rest
  | '0' :: _ :: _ => none
  | cs => Text.digits? cs

/-- The tag of whole numbers. -/
def intTag : String := "tag:yaml.org,2002:int"

namespace Scalar

/-- Whether the scalar may be taken for a number. -/
def mayBeNumber (s : Scalar) : Bool :=
  match s.style with
  | .plain => true
  | .literal => s.tag == some intTag
  | _ => false

/-- The number of a scalar, if it may be taken for one and is below the bound. -/
def naturalBelow? (bound : Nat) (s : Scalar) : Option Nat :=
  if s.mayBeNumber then (natural? s.text).bind fun n => if n < bound then some n else none
  else none

/-- A number of the unsigned 32-bit range. -/
def uint32? (s : Scalar) : Option UInt32 := (s.naturalBelow? UInt32.size).map UInt32.ofNat

/-- A number of the unsigned 64-bit range. -/
def uint64? (s : Scalar) : Option UInt64 := (s.naturalBelow? UInt64.size).map UInt64.ofNat

end Scalar

end Yaml

end OsdMigration
