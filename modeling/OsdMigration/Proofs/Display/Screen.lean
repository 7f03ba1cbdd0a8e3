import Mathlib.Data.List.Basic
import OsdMigration.Display.Terminal
import OsdMigration.Display.Transcript

set_option autoImplicit false

/-! # What lines look like on a terminal

A terminal (`Screen`) is a machine that takes characters: each is put where the cursor is, a line
feed ends the line, a carriage return goes back to its beginning, and one control sequence blanks
it. What a user is to see is said of the lines alone: `standing` is the passing line that is still
open, `ended` are the lines that are finished. The bytes that are written for lines bring exactly
this onto the screen (`shows_lines`). The invariant is that the cursor stands behind what is on its
line, and that there is something on it if and only if a passing line is open.
-/

namespace OsdMigration

/-- The text of a line. -/
def Line.text : Line → String
  | .lasting text | .passing text => text

namespace Terminal

/-! ## The screen -/

/-- How far a control sequence has come: none has begun, its escape was read, or its bracket too,
with parameters behind it. -/
inductive Control where
  | none
  | escape
  | bracket (parameters : List Char)
deriving DecidableEq, Repr

/-- A terminal: the lines that have ended, the earliest first, the line that the cursor is on, its
column, and the control sequence that is being read. -/
structure Screen where
  finished : List String
  line : List Char
  column : Nat
  control : Control
deriving DecidableEq, Repr

namespace Screen

/-- A screen on which nothing was written. -/
def blank : Screen := ⟨[], [], 0, .none⟩

/-- A character takes the place of what is under the cursor; there are spaces where nothing was
written. -/
def put (s : Screen) (c : Char) : Screen :=
  { s with
    line := s.line.take s.column ++ List.replicate (s.column - s.line.length) ' '
      ++ c :: s.line.drop (s.column + 1)
    column := s.column + 1 }

/-- One character. A control sequence ends with a letter or the like; the one that blanks the line
leaves the cursor in its column. -/
def step (s : Screen) (c : Char) : Screen :=
  match s.control with
  | .none =>
    if c = '\n' then
      { s with finished := s.finished ++ [String.ofList s.line], line := [], column := 0 }
    else if c = '\r' then { s with column := 0 }
    else if c = '\x1b' then { s with control := .escape }
    else s.put c
  | .escape => { s with control := if c = '[' then .bracket [] else .none }
  | .bracket parameters =>
    if '@' ≤ c ∧ c ≤ '~' then
      { s with
        control := .none
        line := if parameters = ['2'] ∧ c = 'K' then [] else s.line }
    else { s with control := .bracket (parameters ++ [c]) }

/-- All characters, one after the other. -/
def feed (s : Screen) (cs : List Char) : Screen := cs.foldl step s

@[simp] theorem feed_nil (s : Screen) : s.feed [] = s := rfl

@[simp] theorem feed_cons (s : Screen) (c : Char) (cs : List Char) :
    s.feed (c :: cs) = (s.step c).feed cs := rfl

@[simp] theorem feed_append (s : Screen) (a b : List Char) :
    s.feed (a ++ b) = (s.feed a).feed b := List.foldl_append

/-- The screen of a terminal that was given bytes, if these are a text. -/
def ofBytes? (bytes : ByteArray) : Option Screen :=
  (String.fromUTF8? bytes).map fun s => blank.feed s.toList

theorem ofBytes?_toUTF8 (s : String) : ofBytes? s.toUTF8 = some (blank.feed s.toList) := by
  have h : String.fromUTF8? s.toUTF8 = some s := dif_pos s.isValidUTF8
  rw [ofBytes?, h]
  rfl

/-! ### Nothing that has ended is touched -/

theorem finished_step (s : Screen) (c : Char) : s.finished <+: (s.step c).finished := by
  unfold step put
  repeat' split
  all_goals first | exact List.prefix_append .. | exact List.prefix_rfl

theorem finished_feed (s : Screen) (cs : List Char) : s.finished <+: (s.feed cs).finished := by
  induction cs generalizing s with
  | nil => exact List.prefix_rfl
  | cons c cs ih => exact (finished_step s c).trans (ih (s.step c))

/-! ### The cursor behind its line -/

/-- A screen whose cursor stands behind what is on its line, and that is in no control sequence. -/
def showing (finished : List String) (line : List Char) : Screen :=
  ⟨finished, line, line.length, .none⟩

variable (finished : List String) (line : List Char)

/-- Characters that are put onto a line and nothing else. -/
def IsPlain (cs : List Char) : Prop := ∀ c ∈ cs, c ≠ '\n' ∧ c ≠ '\r' ∧ c ≠ '\x1b'

instance (cs : List Char) : Decidable (IsPlain cs) := List.decidableBAll _ cs

theorem feed_plain {cs : List Char} (h : IsPlain cs) :
    (showing finished line).feed cs = showing finished (line ++ cs) := by
  induction cs generalizing line with
  | nil => simp
  | cons c cs ih =>
      obtain ⟨hc, hcs⟩ := List.forall_mem_cons.1 h
      have hput : (showing finished line).step c = showing finished (line ++ [c]) := by
        simp [step, showing, put, hc]
      rw [feed_cons, hput, ih _ hcs, List.append_assoc, List.singleton_append]

theorem feed_lineFeed :
    (showing finished line).feed ['\n'] = showing (finished ++ [String.ofList line]) [] := rfl

/-- What is on the line is blanked, and the cursor goes to its beginning. -/
theorem feed_eraseLine : (showing finished line).feed eraseLine.toList = showing finished [] := by
  have h : eraseLine.toList = ['\x1b', '[', '2', 'K', '\r'] := by decide
  rw [h]
  rfl

end Screen

/-! ## What is to be seen -/

/-- The passing line that is open behind lines: the last one that says something, unless a lasting
line came after it. -/
def standing (lines : List Line) : Option String :=
  (lines.reverse.takeWhile fun l => l.lasting? = none).findSome? Line.passing?

/-- The lines that one line finishes behind others: a lasting line the passing line that is open, if
there is one, and then itself. -/
def finishes (before : List Line) : Line → List String
  | .lasting text => (standing before).toList ++ [text]
  | .passing _ => []

/-- The lines that are finished, by each line behind those before it. -/
def ended (lines : List Line) : List String :=
  lines.zipIdx.flatMap fun p => finishes (lines.take p.2) p.1

/-- The screen with these lines. -/
def shown (lines : List Line) : Screen :=
  .showing (ended lines) ((standing lines).getD "").toList

section

variable (lines : List Line) (text : String)

theorem standing_lasting : standing (lines ++ [.lasting text]) = none := by
  rw [standing, List.reverse_append]
  rfl

theorem standing_passing :
    standing (lines ++ [.passing text]) = if text = "" then standing lines else some text := by
  have h : standing (lines ++ [.passing text]) =
      ((Line.passing text).passing? <|> standing lines) := by
    rw [standing, List.reverse_append]
    cases h : (Line.passing text).passing? <;> simp [standing, Line.lasting?, h]
  rw [h, Line.passing?]
  split <;> rfl

/-- A further line adds to the lines that are finished, and to nothing before. -/
theorem ended_append (l : Line) : ended (lines ++ [l]) = ended lines ++ finishes lines l := by
  have hbefore : ∀ p ∈ lines.zipIdx, (lines ++ [l]).take p.2 = lines.take p.2 := by
    intro p hp
    have hlt := List.snd_lt_of_mem_zipIdx hp
    exact List.take_append_of_le_length (by omega)
  rw [ended, List.zipIdx_append, List.flatMap_append, ended]
  congr 1
  · refine List.flatMap_congr fun p hp => ?_
    rw [hbefore p hp]
  · simp

end

theorem ended_prefix (before after : List Line) : ended before <+: ended (before ++ after) := by
  induction after generalizing before with
  | nil => simp
  | cons l after ih =>
      have hstep : ended before <+: ended (before ++ [l]) := by
        rw [ended_append]
        exact List.prefix_append ..
      rw [← List.singleton_append, ← List.append_assoc]
      exact hstep.trans (ih _)

/-! ## What is written for lines -/

/-- After a line it is known whether a passing line is open. -/
theorem write_snd (before : List Line) (l : Line) :
    (write (standing before).isSome l).2 = (standing (before ++ [l])).isSome := by
  cases l with
  | lasting text =>
      rw [standing_lasting]
      rfl
  | passing text =>
      rw [standing_passing, write]
      split <;> rfl

/-- What is written for one more line brings it onto the screen. -/
theorem feed_write (before : List Line) (l : Line) (plain : Screen.IsPlain l.text.toList) :
    (shown before).feed (write (standing before).isSome l).1.toList = shown (before ++ [l]) := by
  cases l with
  | lasting text =>
      change Screen.IsPlain text.toList at plain
      have hline : ∀ finished, (Screen.showing finished []).feed (text.toList ++ ['\n']) =
          .showing (finished ++ [text]) [] := by
        intro finished
        rw [Screen.feed_append, Screen.feed_plain _ _ plain, Screen.feed_lineFeed]
        simp
      have hwritten : (write (standing before).isSome (.lasting text)).1.toList =
          (if (standing before).isSome then ['\n'] else []) ++ (text.toList ++ ['\n']) := by
        rw [write]
        cases (standing before).isSome <;> simp
      rw [hwritten, Screen.feed_append, shown, shown, standing_lasting, ended_append, finishes]
      cases standing before with
      | none => exact hline _
      | some last =>
          have hclose : (Screen.showing (ended before) last.toList).feed ['\n'] =
              .showing (ended before ++ [last]) [] := by
            rw [Screen.feed_lineFeed, String.ofList_toList]
          simp only [Option.isSome_some, if_true, Option.getD_some, hclose, hline]
          simp
  | passing text =>
      have hput : (Screen.showing (ended before) []).feed text.toList =
          .showing (ended before) text.toList := Screen.feed_plain _ [] plain
      rw [shown, shown, standing_passing, ended_append, finishes, List.append_nil, write]
      by_cases h : text = ""
      · simp [h]
      · rw [if_neg h, if_neg h, Option.getD_some]
        cases standing before with
        | none => simpa using hput
        | some last =>
            simp only [Option.isSome_some, if_true, Option.getD_some, String.toList_append,
              Screen.feed_append, Screen.feed_eraseLine, hput]

/-- What is written for lines brings them onto a screen that shows others. -/
theorem feed_writeAll (before lines : List Line)
    (plain : ∀ l ∈ lines, Screen.IsPlain l.text.toList) :
    (shown before).feed (writeAll (standing before).isSome lines).toList =
      shown (before ++ lines) := by
  induction lines generalizing before with
  | nil => simp [writeAll]
  | cons l lines ih =>
      obtain ⟨hl, hlines⟩ := List.forall_mem_cons.1 plain
      have hrest := ih (before ++ [l]) hlines
      rw [writeAll, String.toList_append, Screen.feed_append, feed_write before l hl, write_snd,
        hrest, List.append_assoc, List.singleton_append]

/-- What a terminal shows that is given what is written for lines. -/
structure Shows (lines : List Line) : Prop where
  /-- The finished lines are there, and the passing line that is open, or nothing. -/
  screen : Screen.ofBytes? (writeAll false lines).toUTF8 = some (shown lines)
  /-- Whatever was written so far, even of a line, only finished lines stand above the cursor. -/
  always : ∀ n, (Screen.blank.feed ((writeAll false lines).toList.take n)).finished <+: ended lines
  /-- The text of each lasting line has a line of its own, behind those that were finished before
  and the passing line that was open, and this line stays. -/
  apart : ∀ before text after, lines = before ++ .lasting text :: after →
    ended before ++ (standing before).toList ++ [text] <+: ended lines

/-- A terminal shows the lines that were written: no text that is to last is overwritten or runs
into another. -/
theorem shows_lines (lines : List Line) (plain : ∀ l ∈ lines, Screen.IsPlain l.text.toList) :
    Shows lines := by
  have hfeed : Screen.blank.feed (writeAll false lines).toList = shown lines :=
    feed_writeAll [] lines plain
  constructor
  case screen => rw [Screen.ofBytes?_toUTF8, hfeed]
  case always =>
    intro n
    have hrest := Screen.finished_feed (Screen.blank.feed ((writeAll false lines).toList.take n))
      ((writeAll false lines).toList.drop n)
    rwa [← Screen.feed_append, List.take_append_drop, hfeed] at hrest
  case apart =>
    rintro before text after rfl
    have hstays := ended_prefix (before ++ [.lasting text]) after
    simpa [ended_append, finishes] using hstays

/-- A wait that tells its progress, and what it was for. -/
def rollingProgress : List Line :=
  [.lasting "waiting", .passing "10% misplaced", .passing "", .passing "5% misplaced",
    .lasting "done", .lasting "", .passing "next"]

/-- The last of the passing lines stays above the lasting line that closes it. -/
theorem shows_rollingProgress :
    (∀ l ∈ rollingProgress, Screen.IsPlain l.text.toList) ∧ Shows rollingProgress ∧
      ended rollingProgress = ["waiting", "5% misplaced", "done", ""] ∧
      standing rollingProgress = some "next" :=
  ⟨by decide, shows_lines rollingProgress (by decide), by decide, by decide⟩

end Terminal

end OsdMigration
