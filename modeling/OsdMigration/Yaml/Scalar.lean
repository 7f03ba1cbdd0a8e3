import OsdMigration.Yaml.Source
import OsdMigration.Text.Numeral

set_option autoImplicit false

/-! # Scalars

A scalar is a text written in one of several styles. Plain scalars and those between quotes flow
over line breaks: a single break reads as a space, and of several the first is left out. Behind
an indicator `|` or `>` a scalar is a block of lines, which `>` folds.
-/

namespace OsdMigration.Yaml

/-- How a scalar is written. -/
inductive Style where
  | plain
  | quoted
  | literal
  | folded
deriving DecidableEq, Repr

/-- The value of a digit in a base up to sixteen. -/
def digitIn? (base : Nat) (c : Char) : Option Nat :=
  let value : Option Nat :=
    if '0' ≤ c ∧ c ≤ '9' then some (c.toNat - '0'.toNat)
    else if 'a' ≤ c ∧ c ≤ 'f' then some (c.toNat - 'a'.toNat + 10)
    else if 'A' ≤ c ∧ c ≤ 'F' then some (c.toNat - 'A'.toNat + 10)
    else none
  value.bind fun d => if d < base then some d else none

/-- The value of a non-empty run of digits in a base. -/
def digitsIn? (base : Nat) (cs : List Char) : Option Nat :=
  if cs = [] then none
  else cs.foldl (fun n c => n.bind fun n => (digitIn? base c).map fun d => n * base + d) (some 0)

namespace Source

/-! ## Gaps between words -/

/-- The text of the line breaks between two words of a flowing scalar. -/
def foldBreaks : List Char → List Char
  | ['\n'] => [' ']
  | '\n' :: more => more
  | breaks => breaks

/-- The gap in front, the line breaks in it, and what follows. -/
def gap (cs : Source) : Source × List Char × Source :=
  let cells := cs.takeWhile Cell.isGap
  (cells, (cells.filter Cell.isBreak).map Cell.char, cs.dropWhile Cell.isGap)

/-! ## Plain scalars -/

/-- Whether the character has a meaning of its own between brackets. -/
def isFlowMark (c : Char) : Bool := ",[]\x7b\x7d".toList.contains c

/-- A word of a plain scalar, and what follows; it may be empty. Between brackets a colon in
front of a mark is refused. -/
def word? (inFlow : Bool) : Source → Option (List Char × Source)
  | [] => some ([], [])
  | c :: rest =>
    if inFlow && c.char == ':' && atOneOf ",?[]\x7b\x7d" rest then none
    else if c.isGap || (c.char == ':' && atGap rest) || (inFlow && isFlowMark c.char) then
      some ([], c :: rest)
    else (word? inFlow rest).map fun (w, after) => (c.char :: w, after)

/-- The words of a plain scalar behind its first, with the gaps in front of them; whether a line
break follows, and what follows. The words stand at the given column or behind it unless they
stand between brackets; `fuel` bounds their number. -/
def words? (inFlow : Bool) (indent : Int) : (fuel : Nat) → Source →
    Option (List Char × Bool × Source)
  | 0, cs => some ([], false, cs)
  | fuel + 1, cs =>
    let (cells, breaks, after) := cs.gap
    let broken := !breaks.isEmpty
    let line := (cs.head?.map Cell.line).getD 0
    -- a tab may not stand in for the spaces of an indentation
    if cells.any fun c => c.char == '\t' && c.line ≠ line && c.column < indent then none
    else if cells.isEmpty then some ([], false, cs)
    else if !inFlow && after.head?.any (fun c => c.column < indent) then some ([], broken, after)
    else if after.boundary?.isSome || after.char? = some '#' then some ([], broken, after)
    else
      match word? inFlow after with
      | none => none
      | some ([], _) => some ([], broken, after)
      | some (w, rest) =>
        let between := if broken then foldBreaks breaks else cells.map Cell.char
        (words? inFlow indent fuel rest).map fun (more, b, rest) => (between ++ w ++ more, b, rest)

/-- A plain scalar, whether a line break was read behind it, and what follows. -/
def plain? (inFlow : Bool) (indent : Int) (cs : Source) : Option (List Char × Bool × Source) := do
  let (w, rest) ← word? inFlow cs
  let (more, broken, rest) ← words? inFlow indent cs.length rest
  pure (w ++ more, broken, rest)

/-! ## Quoted scalars -/

/-- The character a backslash and a letter stand for. -/
def escaped? : Char → Option Char
  | '0' => some '\x00'
  | 'a' => some '\x07'
  | 'b' => some '\x08'
  | 't' => some '\t'
  | '\t' => some '\t'
  | 'n' => some '\n'
  | 'v' => some '\x0b'
  | 'f' => some '\x0c'
  | 'r' => some '\r'
  | 'e' => some '\x1b'
  | ' ' => some ' '
  | '"' => some '"'
  | '/' => some '/'
  | '\\' => some '\\'
  | 'N' => some '\u0085'
  | '_' => some '\u00a0'
  | 'L' => some '\u2028'
  | 'P' => some '\u2029'
  | _ => none

/-- How many digits in base sixteen follow a backslash and the letter. -/
def escapeWidth? : Char → Option Nat
  | 'x' => some 2
  | 'u' => some 4
  | 'U' => some 8
  | _ => none

/-- The character of an escape behind the backslash, and what follows. -/
def escape? : Source → Option (Char × Source)
  | [] => none
  | c :: rest =>
    match escapeWidth? c.char with
    | none => (escaped? c.char).map fun x => (x, rest)
    | some width =>
      if rest.length < width then none
      else
        (digitsIn? 16 ((rest.take width).map Cell.char)).bind fun n =>
          if n.isValidChar then some (Char.ofNat n, rest.drop width) else none

/-- A scalar behind its opening quote, and what follows its closing quote; `fuel` bounds its
length. -/
def quoted? (single : Bool) : (fuel : Nat) → Source → Option (List Char × Source)
  | 0, _ => none
  | _, [] => none
  | fuel + 1, c :: rest =>
    if (boundary? (c :: rest)).isSome then none
    else if c.isGap then
      let (cells, breaks, after) := gap (c :: rest)
      let between := if breaks.isEmpty then cells.map Cell.char else foldBreaks breaks
      (quoted? single fuel after).map fun (text, end') => (between ++ text, end')
    else if single then
      if c.char = '\'' then
        match rest with
        | q :: rest' =>
          if q.char = '\'' then
            (quoted? single fuel rest').map fun (text, end') => ('\'' :: text, end')
          else some ([], rest)
        | [] => some ([], [])
      else (quoted? single fuel rest).map fun (text, end') => (c.char :: text, end')
    else if c.char = '"' then some ([], rest)
    else if c.char = '\\' then
      if rest.head?.any Cell.isBreak then
        -- an escaped break and the blanks behind it are left out, further breaks stay
        let (_, breaks, after) := gap rest.tail
        (quoted? single fuel after).map fun (text, end') => (breaks ++ text, end')
      else
        (escape? rest).bind fun (x, after) =>
          (quoted? single fuel after).map fun (text, end') => (x :: text, end')
    else (quoted? single fuel rest).map fun (text, end') => (c.char :: text, end')

/-! ## Block scalars -/

/-- What becomes of the line breaks at the end of a block. -/
inductive Chomping where
  | strip
  | clip
  | keep
deriving DecidableEq, Repr

/-- The chomping an indicator asks for. -/
def chomping? (cs : Source) : Option Chomping :=
  match cs.char? with
  | some '-' => some .strip
  | some '+' => some .keep
  | _ => none

/-- The indentation an indicator asks for: a digit, nothing if there is none. A zero is
refused. -/
def increment? (cs : Source) : Option (Nat × Source) :=
  match cs with
  | c :: rest =>
    match digitIn? 10 c.char with
    | some 0 => none
    | some d => some (d, rest)
    | none => some (0, c :: rest)
  | [] => some (0, [])

/-- The indicators of a block in either order, and the line behind them. -/
def blockHeader? (cs : Source) : Option (Chomping × Nat × Source) :=
  match cs.chomping? with
  | some chomping => do
    let (increment, rest) ← increment? cs.tail
    pure (chomping, increment, ← rest.nextLine?)
  | none => do
    let (increment, rest) ← increment? cs
    match if increment = 0 then none else rest.chomping? with
    | some chomping => pure (chomping, increment, ← Source.nextLine? rest.tail)
    | none => pure (.clip, increment, ← rest.nextLine?)

/-- The line breaks of the empty lines in front, the widest column they reach, and what follows.
An indentation of zero is not yet known; within the indentation a tab is refused. -/
def emptyLines? (indent : Nat) : (fuel widest : Nat) → Source →
    Option (List Char × Nat × Source)
  | 0, widest, cs => some ([], widest, cs)
  | fuel + 1, widest, cs =>
    let within (c : Cell) : Bool := indent = 0 || c.column < indent
    match cs.dropWhile fun c => c.char == ' ' && within c with
    | [] => some ([], widest, [])
    | c :: rest =>
      let widest := max widest c.column
      if c.char = '\t' ∧ within c = true then none
      else if c.isBreak then
        (emptyLines? indent fuel widest rest).map fun (breaks, w, after) =>
          (c.char :: breaks, w, after)
      else some ([], widest, c :: rest)

/-- What is known between two lines of a block: the break of the line before, the breaks of the
empty lines behind it, and whether the line before began with a blank. -/
structure BlockGap where
  first : Option Char := none
  others : List Char
  afterBlank : Bool := false

/-- The text of the breaks in front of a line. Folding leaves out the first break between two
lines that do not begin with a blank, and puts a space if there is no other. -/
def BlockGap.text (g : BlockGap) (fold beforeBlank : Bool) : List Char :=
  if fold && g.first == some '\n' && !g.afterBlank && !beforeBlank then
    if g.others.isEmpty then [' '] else g.others
  else g.first.toList ++ g.others

/-- The text of the breaks at the end of a block. -/
def BlockGap.chomped (g : BlockGap) : Chomping → List Char
  | .strip => []
  | .clip => g.first.toList
  | .keep => g.first.toList ++ g.others

/-- The lines of a block at the indentation, and what follows; `fuel` bounds their number. -/
def blockLines? (fold : Bool) (chomping : Chomping) (indent : Nat) :
    (fuel : Nat) → BlockGap → Source → Option (List Char × Source)
  | 0, _, _ => none
  | fuel + 1, g, cs =>
    if cs.head?.any (fun c => c.column == indent) then do
      let blank := cs.head?.any Cell.isBlank
      let line := cs.takeWhile fun c => !c.isBreak
      let rest := cs.dropWhile fun c => !c.isBreak
      let (others, _, after) ← emptyLines? indent (cs.length + 1) 0 rest.tail
      let (text, after) ←
        blockLines? fold chomping indent fuel ⟨Source.char? rest, others, blank⟩ after
      pure (g.text fold blank ++ line.map Cell.char ++ text, after)
    else some (g.chomped chomping, cs)

/-- A block behind its indicator, and what follows. Its lines stand to the right of the given
column, which is negative for a block that stands for itself. -/
def block? (fold : Bool) (parent : Int) (cs : Source) : Option (List Char × Source) := do
  let (chomping, increment, rest) ← blockHeader? cs
  let known := if increment = 0 then 0 else (max parent 0).toNat + increment
  let (breaks, widest, after) ← emptyLines? known (cs.length + 1) 0 rest
  let indent := if known = 0 then max widest (max (parent + 1) 1).toNat else known
  blockLines? fold chomping indent (cs.length + 1) { others := breaks } after

end Source

end OsdMigration.Yaml
