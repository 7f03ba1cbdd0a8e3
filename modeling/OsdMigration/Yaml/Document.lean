import OsdMigration.Yaml.Basic
import OsdMigration.Yaml.Token
import OsdMigration.NameMap

set_option autoImplicit false

/-! # Documents

The nodes of a document are built from its tokens. A node may have an anchor and a tag in front
of it, and a node of which nothing else is written is an empty scalar. Between brackets an item
of a sequence may be a pair, which is a mapping of one entry.
-/

namespace OsdMigration.Yaml

/-- What is known between two nodes: the tokens that are left, what the handles of tags stand
for, the numbers of the anchors, and the scalars that the anchors of a number stand for, the last
one first, where a collection has none. -/
structure Reading where
  tokens : List Token
  handles : List (String × String) := []
  anchors : NameMap Nat := .empty
  targets : List (Nat × Option Scalar) := []

/-- A reader of a part of a document. -/
abbrev Reader := StateT Reading Option

namespace Reader

/-- The next token. -/
def peek : Reader (Option Token) := do return (← get).tokens.head?

/-- Goes on to the next token. -/
def advance : Reader Unit := modify fun r => { r with tokens := r.tokens.tail }

/-- Whether the next token is one of the given. -/
def at? (ts : List Token) : Reader Bool := do return (← peek).any ts.contains

/-- Goes on if the next token is the given one. -/
def accept (t : Token) : Reader Bool := do
  if ← at? [t] then
    advance
    return true
  else return false

/-- Takes the next token, which must be the given one. -/
def expect (t : Token) : Reader Unit := do
  if ← accept t then return () else failure

/-! ## Properties -/

/-- The anchor in front of a node. -/
def anchor : Reader (Option String) := do
  match ← peek with
  | some (.anchor name) => advance; return some name
  | _ => return none

/-- The tag in front of a node. -/
def tag : Reader (Option TagName) := do
  match ← peek with
  | some (.tag name) => advance; return some name
  | _ => return none

/-- The anchor and the tag in front of a node, in either order. -/
def properties : Reader (Option String × Option TagName) := do
  match ← anchor with
  | some name => return (some name, ← tag)
  | none =>
    let t ← tag
    return (← anchor, t)

/-- The whole tag, if its handle was declared. -/
def resolve (t : TagName) : Reader String := do
  if t.handle = "" then return t.suffix
  else
    match (← get).handles.lookup t.handle with
    | some stem => return stem ++ t.suffix
    | none => failure

/-- Notes the node that an anchor stands for. The anchor gets the count of the names before it as
its number, so a name that is used again shares its new number with the next new name. -/
def define (name : Option String) (scalar : Option Scalar) : Reader Unit :=
  match name with
  | none => return ()
  | some name =>
    modify fun r =>
      let number := r.anchors.pairs.length
      { r with
        anchors := r.anchors.insert name number
        targets := (number, scalar) :: r.targets }

/-- The node of an alias, whose anchor must be known. -/
def aliased (name : String) : Reader Yaml := do
  match (← get).anchors.get? name with
  | some number => return .alias number
  | none => failure

/-! ## Nodes -/

mutual

/-- A node; `fuel` bounds its depth and its length. A block may begin only outside of brackets,
and a sequence that is not indented only in a mapping. -/
def node (inBlock unindented : Bool) : (fuel : Nat) → Reader Yaml
  | 0 => failure
  | fuel + 1 => do
    match ← peek with
    | some (.alias name) => advance; aliased name
    | _ =>
      let (name, tagName) ← properties
      let tag ← tagName.mapM resolve
      match ← peek with
      | some (.scalar style text) =>
        advance
        define name (some ⟨style, tag, text⟩)
        return .scalar ⟨style, tag, text⟩
      | some .openBracket => advance; define name none; return .sequence (← flowItems true fuel)
      | some .openBrace => advance; define name none; return .mapping (← flowEntries true fuel)
      | next =>
        if unindented && next == some .dash then
          define name none
          return .sequence (← looseItems fuel)
        else if inBlock && next == some .sequenceBlock then
          advance
          define name none
          return .sequence (← blockItems fuel)
        else if inBlock && next == some .mappingBlock then
          advance
          define name none
          return .mapping (← blockEntries fuel)
        else if name.isSome || tag.isSome then
          define name (some (.empty tag))
          return .scalar (.empty tag)
        else failure

/-- The items of a block up to its end. -/
def blockItems : (fuel : Nat) → Reader (List Yaml)
  | 0 => failure
  | fuel + 1 => do
    if ← accept .dash then
      let item ← if ← at? [.dash, .blockEnd] then pure absent else node true false fuel
      return item :: (← blockItems fuel)
    else
      expect .blockEnd
      return []

/-- The items of a sequence that begins at the column of the mapping it belongs to. -/
def looseItems : (fuel : Nat) → Reader (List Yaml)
  | 0 => failure
  | fuel + 1 => do
    if ← accept .dash then
      let item ←
        if ← at? [.dash, .key, .value, .blockEnd] then pure absent else node true false fuel
      return item :: (← looseItems fuel)
    else return []

/-- The entries of a block up to its end. -/
def blockEntries : (fuel : Nat) → Reader (List (Yaml × Yaml))
  | 0 => failure
  | fuel + 1 => do
    if ← accept .key then
      let key ← if ← at? [.key, .value, .blockEnd] then pure absent else node true true fuel
      let value ←
        if ← accept .value then
          if ← at? [.key, .value, .blockEnd] then pure absent else node true true fuel
        else pure absent
      return (key, value) :: (← blockEntries fuel)
    else
      expect .blockEnd
      return []

/-- The items between brackets up to the closing one. -/
def flowItems (first : Bool) : (fuel : Nat) → Reader (List Yaml)
  | 0 => failure
  | fuel + 1 => do
    if ← accept .closeBracket then return []
    else
      if !first then expect .comma
      if ← accept .closeBracket then return []
      else if ← accept .key then
        let pair ← flowPair fuel
        return .mapping [pair] :: (← flowItems false fuel)
      else
        let item ← node false false fuel
        return item :: (← flowItems false fuel)

/-- A pair between brackets, behind the mark of its key. -/
def flowPair : (fuel : Nat) → Reader (Yaml × Yaml)
  | 0 => failure
  | fuel + 1 => do
    let key ←
      if ← at? [.value, .comma, .closeBracket] then
        -- what stands in the place of the key is passed over
        advance
        pure absent
      else node false false fuel
    let value ←
      if ← accept .value then
        if ← at? [.comma, .closeBracket] then pure absent else node false false fuel
      else pure absent
    return (key, value)

/-- The entries between braces up to the closing one. -/
def flowEntries (first : Bool) : (fuel : Nat) → Reader (List (Yaml × Yaml))
  | 0 => failure
  | fuel + 1 => do
    if ← accept .closeBrace then return []
    else
      if !first then expect .comma
      if ← accept .closeBrace then return []
      else if ← accept .key then
        let key ← if ← at? [.value, .comma, .closeBrace] then pure absent else node false false fuel
        let value ←
          if ← accept .value then
            if ← at? [.comma, .closeBrace] then pure absent else node false false fuel
          else pure absent
        return (key, value) :: (← flowEntries false fuel)
      else
        let key ← node false false fuel
        return (key, absent) :: (← flowEntries false fuel)

end

/-! ## Directives -/

/-- The directives in front of a document. A version other than 1.1 and 1.2 is refused, and so is
a second version or a second declaration of a handle. -/
def directives (versioned : Bool) : List Token → Reader Unit
  | .directive (.version major minor) :: rest => do
    if versioned || major ≠ 1 || (minor ≠ 1 && minor ≠ 2) then failure
    else
      advance
      directives true rest
  | .directive (.handle name stem) :: rest => do
    let r ← get
    if (r.handles.lookup name).isSome then failure
    else
      set { r with tokens := r.tokens.tail, handles := (name, stem) :: r.handles }
      directives versioned rest
  | _ => return ()

/-- The handles that stand for something without being declared. -/
def standardHandles : List (String × String) := [("!", "!"), ("!!", "tag:yaml.org,2002:")]

/-- The end of the only document, behind which nothing may follow. -/
def finish : List Token → Reader Unit
  | [] => return ()
  | .documentEnd :: rest => finish rest
  | _ => failure

/-- The root of the only document; `none` if there is no document. -/
def document : Reader (Option Yaml) := do
  let tokens := (← get).tokens
  let fuel := 3 * tokens.length + 3
  if tokens.isEmpty then return none
  else
    directives false tokens
    let rest := (← get).tokens
    modify fun r => { r with handles := r.handles ++ standardHandles }
    let explicit ← accept .documentStart
    -- only a boundary may follow a directive
    if !explicit && rest.length ≠ tokens.length then failure
    let root ←
      match ← peek with
      | none => if explicit then pure absent else failure
      | some (.directive _) | some .documentStart | some .documentEnd =>
        if explicit then pure absent else failure
      | some _ => node true false fuel
    finish (← get).tokens
    return some root

end Reader

/-! ## Aliases -/

mutual

/-- The node with a scalar in the place of every alias that stands for one. -/
def withAliases (targets : List (Nat × Option Scalar)) : Yaml → Yaml
  | .scalar s => .scalar s
  | .sequence items => .sequence (itemsWithAliases targets items)
  | .mapping entries => .mapping (entriesWithAliases targets entries)
  | .alias n =>
    match targets.lookup n with
    | some (some s) => .scalar s
    | _ => .alias n

/-- The items with scalars in the place of aliases. -/
def itemsWithAliases (targets : List (Nat × Option Scalar)) : List Yaml → List Yaml
  | [] => []
  | y :: rest => withAliases targets y :: itemsWithAliases targets rest

/-- The entries with scalars in the place of aliases. -/
def entriesWithAliases (targets : List (Nat × Option Scalar)) :
    List (Yaml × Yaml) → List (Yaml × Yaml)
  | [] => []
  | (key, value) :: rest =>
    (withAliases targets key, withAliases targets value) :: entriesWithAliases targets rest

end

/-- The root of the only document of a text, an empty scalar if there is no document. -/
def parse? (s : String) : Option Yaml := do
  let tokens ← Token.scan? (← Source.ofText? s)
  let (root, r) ← Reader.document.run { tokens }
  pure ((root.map (withAliases r.targets)).getD absent)

end OsdMigration.Yaml
