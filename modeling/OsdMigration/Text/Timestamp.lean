import OsdMigration.Text.Blank
import OsdMigration.Text.Numeral

set_option autoImplicit false

/-! # Points in time

A point in time is written as a date and a time of day with an offset from universal time. It is
read leniently, with blanks between the parts, any of three marks between date and time, and
spellings of the offset, and written in one form only: universal time, in whole seconds. Days are
counted in the calendar of Gregory, before its introduction too.
-/

namespace OsdMigration.Text

/-! ## The calendar -/

/-- A day of the calendar. -/
structure Date where
  year : Int
  month : Nat
  day : Nat
deriving DecidableEq, Repr

namespace Date

/-- Whether a year has a leap day. -/
def isLeap (year : Int) : Bool := year % 4 = 0 && (year % 100 ≠ 0 || year % 400 = 0)

/-- The count of days of a month. -/
def daysIn (year : Int) (month : Nat) : Nat :=
  if month = 2 then if isLeap year then 29 else 28
  else if month ∈ [4, 6, 9, 11] then 30
  else 31

/-- The years that are told apart. -/
def yearKnown (year : Int) : Bool := -262143 ≤ year && year ≤ 262142

/-- Whether there is such a day. -/
def isValid (d : Date) : Bool :=
  yearKnown d.year && 1 ≤ d.month && d.month ≤ 12 && 1 ≤ d.day && d.day ≤ daysIn d.year d.month

/-- The number of the day, counted from the first of January 1970. A year is taken to begin in
March here, so that the leap day is its last. -/
def number (d : Date) : Int :=
  let year := if d.month ≤ 2 then d.year - 1 else d.year
  let month : Int := ((d.month + 9) % 12 : Nat)
  let dayOfYear := (153 * month + 2) / 5 + (d.day : Int) - 1
  365 * year + year / 4 - year / 100 + year / 400 + dayOfYear - 719468

/-- The day with a number. -/
def ofNumber (n : Int) : Date :=
  let n := n + 719468
  let era := n / 146097
  let day := n - era * 146097
  let year := (day - day / 1460 + day / 36524 - day / 146096) / 365
  let dayOfYear := day - (365 * year + year / 4 - year / 100)
  let month := (5 * dayOfYear + 2) / 153
  let dayOfMonth := dayOfYear - (153 * month + 2) / 5 + 1
  let january := 10 ≤ month
  ⟨era * 400 + year + (if january then 1 else 0), (if january then month - 9 else month + 3).toNat,
    dayOfMonth.toNat⟩

end Date

/-- A point in time, to the second: the day in universal time, the second of the day, and whether
the leap second behind it is meant. -/
structure Timestamp where
  date : Date
  second : Nat
  leap : Bool
deriving DecidableEq, Repr

namespace Timestamp

/-! ## Reading -/

/-- What follows a character. -/
def drop? (c : Char) : List Char → Option (List Char)
  | [] => none
  | d :: rest => if d = c then some rest else none

/-- Whether the character is an ASCII digit. -/
def isDigit (c : Char) : Bool := '0' ≤ c && c ≤ '9'

/-- A number of at most so many digits behind blanks, and what follows. -/
def number? (width : Nat) (cs : List Char) : Option (Nat × List Char) :=
  let cs := dropBlanks cs
  let digits := (cs.take width).takeWhile isDigit
  (digits? digits).map fun n => (n, cs.drop digits.length)

/-- A year, of any count of digits behind a sign, and what follows. -/
def year? (cs : List Char) : Option (Int × List Char) :=
  match dropBlanks cs with
  | '-' :: rest =>
    let digits := rest.takeWhile isDigit
    (digits? digits).map fun n => (-(n : Int), rest.drop digits.length)
  | '+' :: rest =>
    let digits := rest.takeWhile isDigit
    (digits? digits).map fun n => ((n : Int), rest.drop digits.length)
  | cs => (number? 4 cs).map fun (n, rest) => ((n : Int), rest)

/-- The date in front, and what follows. -/
def date? (cs : List Char) : Option (Date × List Char) := do
  let (year, cs) ← year? cs
  let cs ← drop? '-' (dropBlanks cs)
  let (month, cs) ← number? 2 cs
  let cs ← drop? '-' (dropBlanks cs)
  let (day, cs) ← number? 2 cs
  let date : Date := ⟨year, month, day⟩
  if date.isValid then pure (date, cs) else none

/-- What follows a fraction of a second, which is dropped. -/
def dropFraction? : List Char → Option (List Char)
  | '.' :: rest =>
    if rest.head?.any isDigit then some (rest.dropWhile isDigit) else none
  | cs => some cs

/-- The time of day in front, as the second of the day and whether it is a leap second, and what
follows. Every minute may have a leap second. -/
def clock? (cs : List Char) : Option (Nat × Bool × List Char) := do
  let (hour, cs) ← number? 2 cs
  let cs ← drop? ':' (dropBlanks cs)
  let (minute, cs) ← number? 2 cs
  let cs ← drop? ':' (dropBlanks cs)
  let (second, cs) ← number? 2 cs
  let cs ← dropFraction? cs
  if hour < 24 ∧ minute < 60 ∧ second ≤ 60 then
    pure ((hour * 60 + minute) * 60 + min second 59, second == 60, cs)
  else none

/-- Whether the character may stand between the hours and the minutes of an offset. -/
def isOffsetGap (c : Char) : Bool := c == ':' || isBlank c

/-- The minutes of an offset behind its sign, and what follows. -/
def offsetMinutes? : List Char → Option (Nat × List Char)
  | a :: b :: rest => do
    let hours ← digits? [a, b]
    match rest.dropWhile isOffsetGap with
    | c :: d :: rest =>
      let minutes ← digits? [c, d]
      if minutes < 60 then pure (hours * 60 + minutes, rest) else none
    | _ => none
  | _ => none

/-- The offset in minutes, and what follows. -/
def offset? (cs : List Char) : Option (Int × List Char) :=
  match cs with
  | '+' :: rest => (offsetMinutes? rest).map fun (n, rest) => ((n : Int), rest)
  | '-' :: rest => (offsetMinutes? rest).map fun (n, rest) => (-(n : Int), rest)
  | '\u2212' :: rest => (offsetMinutes? rest).map fun (n, rest) => (-(n : Int), rest)
  | c :: rest =>
    if (cs.take 3).map Char.toUpper = ['U', 'T', 'C'] then
      some (0, cs.drop 3)
    else if c = 'Z' ∨ c = 'z' then some (0, rest)
    else none
  | [] => none

/-- The point in time of a text. -/
def ofText? (s : String) : Option Timestamp := do
  let (date, cs) ← date? s.toList
  let cs ←
    match cs with
    | c :: rest => if c = 'T' ∨ c = 't' ∨ c = ' ' then some rest else none
    | [] => none
  let (second, leap, cs) ← clock? cs
  let (offset, cs) ← offset? (dropBlanks cs)
  if dropBlanks cs ≠ [] ∨ 1440 ≤ offset.natAbs then none
  else
    let total := date.number * 86400 + (second : Int) - offset * 60
    let date := Date.ofNumber (total / 86400)
    if Date.yearKnown date.year then pure ⟨date, (total % 86400).toNat, leap⟩ else none

/-! ## Writing -/

/-- A number with so many digits at least. -/
def padded (width n : Nat) : List Char :=
  let digits := Nat.toDigits 10 n
  List.replicate (width - digits.length) '0' ++ digits

/-- The year; beyond four digits it has a sign. -/
def yearText (year : Int) : List Char :=
  if 0 ≤ year ∧ year ≤ 9999 then padded 4 year.toNat
  else (if year < 0 then '-' else '+') :: padded 4 year.natAbs

/-- The text of a point in time. -/
def text (t : Timestamp) : String :=
  String.ofList (yearText t.date.year ++ ['-'] ++ padded 2 t.date.month ++ ['-']
    ++ padded 2 t.date.day ++ ['T'] ++ padded 2 (t.second / 3600) ++ [':']
    ++ padded 2 (t.second / 60 % 60) ++ [':'] ++ padded 2 (t.second % 60 + t.leap.toNat)
    ++ ['Z'])

end Timestamp

end OsdMigration.Text
