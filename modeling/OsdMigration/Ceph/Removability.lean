import OsdMigration.Text.DecimalDigit
import OsdMigration.Text.Numeral

set_option autoImplicit false

/-! # Whether an OSD can go

Ceph is asked whether an OSD can be destroyed without losing data and answers in words. Two
phrases are recognised anywhere in the text: one says that it is safe, the other how many
placement groups are still mapped to the OSD. The numbers in a phrase are runs of decimal digits.
-/

namespace OsdMigration.Ceph

/-- The answer. -/
inductive Removability where
  | safe
  | busy (groups : UInt32)
  | unknown
deriving DecidableEq, Repr

namespace Removability

/-- Whether the answer is that the OSD can go. -/
def isSafe (r : Removability) : Bool := r = .safe

/-- The count of placement groups in the way, `-1` where it is not known. -/
def blocking : Removability → Int
  | .safe => 0
  | .busy groups => groups.toNat
  | .unknown => -1

/-- What follows a text, if the characters begin with it. -/
def skip? (text : String) (cs : List Char) : Option (List Char) :=
  if text.toList.isPrefixOf cs then some (cs.drop text.length) else none

/-- A non-empty run of decimal digits, and what follows. -/
def number? (cs : List Char) : Option (List Char × List Char) :=
  match cs.takeWhile Text.isDecimalDigit with
  | [] => none
  | d :: ds => some (d :: ds, cs.dropWhile Text.isDecimalDigit)

/-- Whether the characters begin with the phrase of a safe answer. -/
def startsSafe (cs : List Char) : Bool :=
  Option.isSome do
    let cs ← skip? "OSD(s) " cs
    let (_, cs) ← number? cs
    skip? " are safe to destroy without reducing data durability" cs

/-- The count in the phrase of a busy answer, if the characters begin with it. -/
def startsBusy? (cs : List Char) : Option (List Char) := do
  let cs ← skip? "Error EBUSY: OSD(s) " cs
  let (_, cs) ← number? cs
  let cs ← skip? " have " cs
  let (count, cs) ← number? cs
  let _ ← skip? " pgs currently mapped to them" cs
  pure count

/-- Whether the phrase of a safe answer occurs. -/
def mentionsSafe : List Char → Bool
  | [] => startsSafe []
  | c :: cs => startsSafe (c :: cs) || mentionsSafe cs

/-- The count in the first phrase of a busy answer. -/
def firstBusy? : List Char → Option (List Char)
  | [] => startsBusy? []
  | c :: cs =>
    match startsBusy? (c :: cs) with
    | some count => some count
    | none => firstBusy? cs

/-- The answer in a text. The safe phrase counts first; a count that is no ASCII numeral of the
32-bit range leaves the answer unknown. -/
def ofText (text : String) : Removability :=
  -- neither phrase is compared with the OSD that was asked about
  if mentionsSafe text.toList then .safe
  else
    match (firstBusy? text.toList).bind fun count => Text.uint32? (String.ofList count) with
    | some groups => .busy groups
    | none => .unknown

end Removability

end OsdMigration.Ceph
