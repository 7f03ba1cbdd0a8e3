set_option autoImplicit false

/-! # Splitting at a separator

A text is split at every occurrence of a character, or cut in two at the first one.
-/

namespace OsdMigration.Text

/-- The parts between the separators, at least one. -/
def splitAt (sep : Char) : List Char → List (List Char)
  | [] => [[]]
  | c :: cs =>
    if c = sep then [] :: splitAt sep cs
    else
      match splitAt sep cs with
      | [] => [[c]]
      | part :: parts => (c :: part) :: parts

/-- What stands before and behind the first separator, if there is one. -/
def cutAt? (sep : Char) (cs : List Char) : Option (List Char × List Char) :=
  match cs.dropWhile (· ≠ sep) with
  | [] => none
  | _ :: behind => some (cs.takeWhile (· ≠ sep), behind)

/-- The parts of a text between the separators. -/
def split (sep : Char) (s : String) : List String := (splitAt sep s.toList).map String.ofList

end OsdMigration.Text
