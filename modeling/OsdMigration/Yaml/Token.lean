import OsdMigration.Yaml.Property

set_option autoImplicit false

/-! # Tokens of a document

The tokens of a document are its scalars, its marks, and the begin and the end of each block,
which are not written but follow from the columns of its lines.

A key needs no mark in front of it, so only the colon behind it tells that it is one. Until then
the place of a possible key is kept, one on each level of brackets. A key stands on one line with
its colon, at most 1024 bytes in front of it.
-/

namespace OsdMigration.Yaml

/-- A token. -/
inductive Token where
  | directive (d : Directive)
  | documentStart
  | documentEnd
  | sequenceBlock
  | mappingBlock
  | blockEnd
  | openBracket
  | closeBracket
  | openBrace
  | closeBrace
  | comma
  | dash
  | key
  | value
  | alias (name : String)
  | anchor (name : String)
  | tag (name : TagName)
  | scalar (style : Style) (text : String)
deriving DecidableEq, Repr

/-- The place of a possible key: its cell, the count of tokens in front of it, and whether
nothing else than a key can stand there. -/
structure KeyPlace where
  cell : Cell
  count : Nat
  required : Bool
deriving DecidableEq, Repr

/-- The most bytes between the begin of a key and its colon. -/
def KeyPlace.reach : Nat := 1024

/-- Whether a colon at the cell comes too late for the key. -/
def KeyPlace.isStale (k : KeyPlace) (c : Cell) : Bool :=
  k.cell.line < c.line || k.cell.offset + reach < c.offset

/-- What is known between two tokens: the tokens so far, the last one first; the columns of the
open blocks, the innermost first, where no block has column -1; the places of possible keys, one
for each level of brackets, and one outside of them; and whether a key may begin. -/
structure Layout where
  tokens : List Token := []
  indent : Int := -1
  outer : List Int := []
  key : Option KeyPlace := none
  outerKeys : List (Option KeyPlace) := []
  keyAllowed : Bool := true
deriving Repr

namespace Layout

/-- Whether a bracket is open. -/
def inFlow (s : Layout) : Bool := !s.outerKeys.isEmpty

/-- The layout after a token. -/
def push (s : Layout) (t : Token) : Layout := { s with tokens := t :: s.tokens }

/-- The layout after a token that was found late and belongs behind so many others. -/
def pushAt (s : Layout) (count : Nat) (t : Token) : Layout :=
  { s with tokens := s.tokens.insertIdx (s.tokens.length - count) t }

/-- Says whether a key may begin. -/
def allowKey (s : Layout) (allowed : Bool) : Layout := { s with keyAllowed := allowed }

/-! ## Possible keys -/

/-- Gives up the possible key of the innermost level. -/
def dropKey? (s : Layout) : Option Layout :=
  if s.key.any KeyPlace.required then none else some { s with key := none }

/-- Keeps the place of a possible key, if one may begin. Only a key can stand at the column of an
open block. -/
def markKey? (s : Layout) (c : Cell) : Option Layout :=
  if s.keyAllowed then
    s.dropKey?.map fun s =>
      { s with key := some ⟨c, s.tokens.length, !s.inFlow && s.indent == c.column⟩ }
  else some s

/-- Gives up the possible keys for which it is too late. -/
def expireKeys? (s : Layout) (c : Cell) : Option Layout :=
  let late (k : Option KeyPlace) : Bool := k.any fun k => k.isStale c
  if (s.key :: s.outerKeys).any fun k => late k && k.any KeyPlace.required then none
  else
    let kept (k : Option KeyPlace) : Option KeyPlace := if late k then none else k
    some { s with key := kept s.key, outerKeys := s.outerKeys.map kept }

/-! ## Blocks -/

/-- Closes blocks up to a column. -/
def closeTo (column : Int) : Int → List Int → List Token → Int × List Int × List Token
  | indent, [], tokens => (indent, [], tokens)
  | indent, o :: os, tokens =>
    if column < indent then closeTo column o os (.blockEnd :: tokens)
    else (indent, o :: os, tokens)

/-- Closes the blocks to the right of a column. Columns mean nothing between brackets. -/
def unroll (s : Layout) (column : Int) : Layout :=
  if s.inFlow then s
  else
    let (indent, outer, tokens) := closeTo column s.indent s.outer s.tokens
    { s with indent, outer, tokens }

/-- Opens a block at a column, if none is open there. -/
def roll (s : Layout) (column count : Nat) (t : Token) : Layout :=
  if s.inFlow ∨ (column : Int) ≤ s.indent then s
  else { s.pushAt count t with indent := column, outer := s.indent :: s.outer }

/-- Opens a block in front of the next token. -/
def rollHere (s : Layout) (c : Cell) (t : Token) : Layout := s.roll c.column s.tokens.length t

/-! ## Marks -/

/-- An opening bracket or brace. -/
def openFlow? (s : Layout) (c : Cell) (t : Token) : Option Layout :=
  (s.markKey? c).map fun s =>
    { s.push t with key := none, outerKeys := s.key :: s.outerKeys, keyAllowed := true }

/-- A closing bracket or brace. -/
def closeFlow? (s : Layout) (t : Token) : Option Layout :=
  s.dropKey?.map fun s =>
    match s.outerKeys with
    | [] => (s.push t).allowKey false
    | k :: ks => { s.push t with key := k, outerKeys := ks, keyAllowed := false }

/-- A comma. -/
def comma? (s : Layout) : Option Layout := s.dropKey?.map fun s => (s.push .comma).allowKey true

/-- The dash of an item. -/
def dash? (s : Layout) (c : Cell) : Option Layout :=
  if !s.inFlow && !s.keyAllowed then none
  else (s.rollHere c .sequenceBlock).dropKey?.map fun s => (s.push .dash).allowKey true

/-- The question mark in front of a key. -/
def key? (s : Layout) (c : Cell) : Option Layout :=
  if !s.inFlow && !s.keyAllowed then none
  else (s.rollHere c .mappingBlock).dropKey?.map fun s => (s.push .key).allowKey (!s.inFlow)

/-- The colon in front of a value. What may be a key in front of it is one. -/
def value? (s : Layout) (c : Cell) : Option Layout :=
  match s.key with
  | some k =>
    let s := (s.pushAt k.count .key).roll k.cell.column k.count .mappingBlock
    some { s.push .value with key := none, keyAllowed := false }
  | none =>
    if !s.inFlow && !s.keyAllowed then none
    else some (((s.rollHere c .mappingBlock).push .value).allowKey (!s.inFlow))

/-- The begin of a directive or a document boundary, at which everything is closed. -/
def boundary? (s : Layout) (t : Token) : Option Layout :=
  (s.unroll (-1)).dropKey?.map fun s => (s.push t).allowKey false

/-- All tokens, at the end of the text. -/
def finish? (s : Layout) : Option (List Token) :=
  (s.unroll (-1)).dropKey?.map fun s => s.tokens.reverse

end Layout

namespace Token

/-- What follows blanks, comments and line breaks, and whether a key may begin there. Outside of
brackets a key may begin on every new line, and where it may, a tab is no blank. -/
def skip (inFlow : Bool) : (inComment allowed : Bool) → Source → Bool × Source
  | _, allowed, [] => (allowed, [])
  | inComment, allowed, c :: rest =>
    if c.isBreak then skip inFlow false (allowed || !inFlow) rest
    else if inComment then skip inFlow true allowed rest
    -- a byte order mark may begin a line
    else if c.char == '\ufeff' && c.column == 0 then skip inFlow false allowed rest
    else if c.char == ' ' || (c.char == '\t' && (inFlow || !allowed)) then
      skip inFlow false allowed rest
    else if c.char == '#' then skip inFlow true allowed rest
    else (allowed, c :: rest)

/-- Whether a plain scalar may begin with the cell. -/
def startsPlain (inFlow : Bool) (c : Cell) (rest : Source) : Bool :=
  if c.char == '-' then !rest.head?.any Cell.isBlank
  else if c.char == '?' || c.char == ':' then !inFlow && !rest.atGap
  else !c.isGap && !",[]\x7b\x7d#&*!|>'\"%@\x60".toList.contains c.char

/-- Adds a scalar that may be a key. -/
def scalar? (s : Layout) (style : Style) (read : Option (List Char × Source)) :
    Option (Layout × Source) :=
  read.map fun (text, rest) => ((s.push (.scalar style (String.ofList text))).allowKey false, rest)

/-- Adds a block scalar. -/
def block? (s : Layout) (fold : Bool) (rest : Source) : Option (Layout × Source) := do
  let s ← s.dropKey?
  let (text, rest) ← rest.block? fold s.indent
  pure ((s.push (.scalar (if fold then .folded else .literal) (String.ofList text))).allowKey true,
    rest)

/-- Adds a plain scalar; a key may begin behind one that ends with a line. -/
def plain? (s : Layout) (cs : Source) : Option (Layout × Source) := do
  let (text, broken, rest) ← cs.plain? s.inFlow (s.indent + 1)
  pure ((s.push (.scalar .plain (String.ofList text))).allowKey broken, rest)

/-- One token that begins with the given cell. -/
def step? (s : Layout) (c : Cell) (rest : Source) : Option (Layout × Source) :=
  match Source.boundary? (c :: rest) with
  | some (mark, after) =>
    (s.boundary? (if mark = '-' then .documentStart else .documentEnd)).map fun s => (s, after)
  | none =>
    let mark (s : Option Layout) : Option (Layout × Source) := s.map fun s => (s, rest)
    match c.char with
    | '[' => mark (s.openFlow? c .openBracket)
    | '\x7b' => mark (s.openFlow? c .openBrace)
    | ']' => mark (s.closeFlow? .closeBracket)
    | '\x7d' => mark (s.closeFlow? .closeBrace)
    | ',' => mark s.comma?
    | '*' => do
      let s ← s.markKey? c
      let (name, rest) ← rest.anchor?
      pure ((s.push (.alias name)).allowKey false, rest)
    | '&' => do
      let s ← s.markKey? c
      let (name, rest) ← rest.anchor?
      pure ((s.push (.anchor name)).allowKey false, rest)
    | '!' => do
      let s ← s.markKey? c
      let (name, rest) ← rest.tag? s.inFlow
      pure ((s.push (.tag name)).allowKey false, rest)
    | '\'' => (s.markKey? c).bind fun s => scalar? s .quoted (rest.quoted? true (rest.length + 1))
    | '"' => (s.markKey? c).bind fun s => scalar? s .quoted (rest.quoted? false (rest.length + 1))
    | x =>
      if x == '%' && c.column == 0 then do
        let (d, rest) ← rest.directive?
        (s.boundary? (.directive d)).map fun s => (s, rest)
      else if x == '-' && rest.atGap then mark (s.dash? c)
      else if x == '?' && (s.inFlow || rest.atGap) then mark (s.key? c)
      else if x == ':' && (s.inFlow || rest.atGap) then mark (s.value? c)
      else if x == '|' && !s.inFlow then block? s false rest
      else if x == '>' && !s.inFlow then block? s true rest
      else if startsPlain s.inFlow c rest then
        (s.markKey? c).bind fun s => plain? s (c :: rest)
      else none

/-- All tokens; `fuel` bounds their number. -/
def scanFrom? : (fuel : Nat) → Layout → Source → Option (List Token)
  | 0, _, _ => none
  | fuel + 1, s, cs =>
    let (allowed, cs) := skip s.inFlow false s.keyAllowed cs
    let s := s.allowKey allowed
    match cs with
    | [] => s.finish?
    | c :: rest => do
      let s ← s.expireKeys? c
      let (s, rest) ← step? (s.unroll c.column) c rest
      scanFrom? fuel s rest

/-- The tokens of a text, or nothing if some part of it is no token. -/
def scan? (cs : Source) : Option (List Token) := scanFrom? (cs.length + 1) {} cs

end Token

end OsdMigration.Yaml
