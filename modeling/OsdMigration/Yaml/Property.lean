import OsdMigration.Yaml.Scalar

set_option autoImplicit false

/-! # Anchors, tags and directives

An anchor gives a node a name, a tag says what kind of value it is. A tag is written with a
handle, which stands for the beginning of the tag, and a suffix. Either part ends at the first
NUL, whatever is written behind. Lines that begin with a percent sign declare handles and the
version of the language.
-/

namespace OsdMigration.Yaml

/-- Whether the character may stand in a name. -/
def isNameChar (c : Char) : Bool :=
  ('0' ≤ c && c ≤ '9') || ('A' ≤ c && c ≤ 'Z') || ('a' ≤ c && c ≤ 'z') || c == '_' || c == '-'

/-- Whether the character may stand in a tag; some may only between angle brackets. -/
def isTagChar (verbatim : Bool) (c : Char) : Bool :=
  isNameChar c || ";/?:@&=+$.%!~*'()".toList.contains c
    || (verbatim && ",[]".toList.contains c)

/-- A tag as it is written. The handle is empty if the suffix is the whole tag. -/
structure TagName where
  handle : String
  suffix : String
deriving DecidableEq, Repr

/-- What a line that begins with a percent sign declares. -/
inductive Directive where
  | version (major minor : Nat)
  | handle (name stem : String)
deriving DecidableEq, Repr

namespace Source

/-- The name in front, and what follows. -/
def name (cs : Source) : List Char × Source :=
  ((cs.takeWhile fun c => isNameChar c.char).map Cell.char,
    cs.dropWhile fun c => isNameChar c.char)

/-! ## Anchors -/

/-- The name of an anchor or an alias behind its indicator, and what follows. -/
def anchor? (cs : Source) : Option (String × Source) :=
  match cs.name with
  | ([], _) => none
  | (name, rest) =>
    if rest.atGap || rest.atOneOf "?:,]\x7d%@\x60" then some (String.ofList name, rest) else none

/-! ## Tags -/

/-- How many bytes a character takes whose first byte is given. -/
def width? (lead : Nat) : Option Nat :=
  if lead < 0x80 then some 1
  else if lead / 0x20 = 6 then some 2
  else if lead / 0x10 = 0xe then some 3
  else if lead / 8 = 0x1e then some 4
  else none

/-- A byte written as a percent sign with two digits, and what follows. -/
def octet? : Source → Option (Nat × Source)
  | p :: a :: b :: rest =>
    if p.char = '%' then (digitsIn? 16 [a.char, b.char]).map fun n => (n, rest) else none
  | _ => none

/-- So many further bytes of a character, and what follows. -/
def trailing? : (count : Nat) → Source → Option (List Nat × Source)
  | 0, cs => some ([], cs)
  | count + 1, cs => do
    let (n, rest) ← octet? cs
    if n / 0x40 ≠ 2 then none
    else
      let (more, after) ← trailing? count rest
      pure (n :: more, after)

/-- The rest of a tag, in which bytes may be written by their numbers, and what follows; `fuel`
bounds its length. -/
def tagText? (verbatim : Bool) : (fuel : Nat) → Source → Option (List Char × Source)
  | 0, _ => none
  | _, [] => some ([], [])
  | fuel + 1, c :: rest =>
    if !isTagChar verbatim c.char then some ([], c :: rest)
    else if c.char = '%' then do
      let (lead, rest) ← octet? (c :: rest)
      let (others, rest) ← trailing? ((← width? lead) - 1) rest
      let (text, after) ← tagText? verbatim fuel rest
      pure ((lead :: others).map Char.ofNat ++ text, after)
    else (tagText? verbatim fuel rest).map fun (text, after) => (c.char :: text, after)

/-- The part of a tag that a text stands for. -/
def tagPart (text : List Char) : String := String.ofList (text.takeWhile fun c => c ≠ '\x00')

/-- A non-empty rest of a tag, and what follows. -/
def tagSuffix? (verbatim : Bool) (cs : Source) : Option (String × Source) :=
  match tagText? verbatim (cs.length + 1) cs with
  | some ([], _) => none
  | some (text, rest) => some (tagPart text, rest)
  | none => none

/-- A tag between angle brackets, of which the first was read. -/
def verbatimTag? (cs : Source) : Option (TagName × Source) := do
  let (suffix, rest) ← tagSuffix? true cs
  if rest.char? = some '>' then pure (⟨"", suffix⟩, rest.tail) else none

/-- A tag behind its exclamation mark that is not between angle brackets. -/
def shortTag? (cs : Source) : Option (TagName × Source) :=
  let (name, rest) := cs.name
  if rest.char? = some '!' then
    (tagSuffix? false rest.tail).map fun (suffix, rest) =>
      (⟨"!" ++ String.ofList name ++ "!", suffix⟩, rest)
  else
    -- what looked like the name of a handle belongs to the tag
    (tagText? false (cs.length + 1) cs).map fun (text, rest) =>
      (if tagPart text = "" then ⟨"", "!"⟩ else ⟨"!", tagPart text⟩, rest)

/-- A tag behind its exclamation mark, and what follows. -/
def tag? (inFlow : Bool) (cs : Source) : Option (TagName × Source) := do
  let (tag, rest) ← if cs.char? = some '<' then verbatimTag? cs.tail else shortTag? cs
  if rest.atGap || (inFlow && rest.char? = some ',') then pure (tag, rest) else none

/-! ## Directives -/

/-- A number of at most nine digits, and what follows. -/
def versionNumber? (cs : Source) : Option (Nat × Source) :=
  let digits := cs.takeWhile fun c => c.char.isDigit
  if digits.length ≤ 9 then
    (digitsIn? 10 (digits.map Cell.char)).map fun n => (n, cs.drop digits.length)
  else none

/-- The version of a directive. -/
def version? (cs : Source) : Option (Directive × Source) := do
  let (major, rest) ← versionNumber? cs.dropBlanks
  if rest.char? = some '.' then
    let (minor, rest) ← versionNumber? rest.tail
    pure (.version major minor, rest)
  else none

/-- The handle of a directive, and what it stands for. -/
def handle? (cs : Source) : Option (Directive × Source) := do
  let cs := cs.dropBlanks
  if cs.char? ≠ some '!' then none
  else
    let (name, rest) := Source.name cs.tail
    let (handle, rest) ←
      if rest.char? = some '!' then some ("!" ++ String.ofList name ++ "!", rest.tail)
      else if name = [] then some ("!", rest)
      else none
    if rest.head?.any Cell.isBlank then
      let (stem, rest) ← tagSuffix? true (Source.dropBlanks rest)
      if rest.atGap then pure (.handle handle stem, rest) else none
    else none

/-- A directive behind its percent sign, and the line that follows. -/
def directive? (cs : Source) : Option (Directive × Source) := do
  let (name, rest) := cs.name
  if !rest.atGap then none
  else
    let (directive, rest) ←
      match String.ofList name with
      | "YAML" => version? rest
      | "TAG" => handle? rest
      | _ => none
    pure (directive, ← rest.nextLine?)

end Source

end OsdMigration.Yaml
