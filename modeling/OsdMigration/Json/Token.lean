import OsdMigration.Json.Basic
import OsdMigration.Text.Numeral

set_option autoImplicit false

/-! # Tokens of JSON text

The text of a JSON document is cut into tokens: punctuation, the three words, numerals and
texts. Blanks between tokens are the space, the tab, the line feed and the carriage return. A
text holds any characters but controls; a backslash starts an escape.
-/

namespace OsdMigration.Json

/-- A token. A text is `none` if its escapes name one half of a surrogate pair only. -/
inductive Token where
  | openBrace | closeBrace | openBracket | closeBracket | comma | colon
  | null | bool (b : Bool)
  | num (n : Number)
  | text (s : Option String)
deriving DecidableEq, Repr

namespace Token

/-- Whether the character may stand between tokens. -/
def isGap (c : Char) : Bool := c == ' ' || c == '\t' || c == '\n' || c == '\r'

/-! ## Texts -/

/-- A piece of a text: a character, or a code unit of UTF-16 given by its number. -/
inductive Piece where
  | char (c : Char)
  | unit (n : Nat)
deriving DecidableEq, Repr

/-- The code unit written by four digits in base sixteen. -/
def unit? (a b c d : Char) : Option Nat := do
  let a ← Text.hexDigit? a
  let b ← Text.hexDigit? b
  let c ← Text.hexDigit? c
  let d ← Text.hexDigit? d
  pure (((a * 16 + b) * 16 + c) * 16 + d)

/-- The character written by a backslash and a letter. -/
def escaped? : Char → Option Char
  | '"' => some '"'
  | '\\' => some '\\'
  | '/' => some '/'
  | 'b' => some '\x08'
  | 'f' => some '\x0c'
  | 'n' => some '\n'
  | 'r' => some '\r'
  | 't' => some '\t'
  | _ => none

/-- The pieces of a text up to its closing quote, and what follows. -/
def pieces? : List Char → Option (List Piece × List Char)
  | [] => none
  | '"' :: rest => some ([], rest)
  | '\\' :: 'u' :: a :: b :: c :: d :: rest => do
    let n ← unit? a b c d
    let (ps, after) ← pieces? rest
    pure (.unit n :: ps, after)
  | '\\' :: e :: rest => do
    let c ← escaped? e
    let (ps, after) ← pieces? rest
    pure (.char c :: ps, after)
  | c :: rest =>
    if c < ' ' then none
    else do
      let (ps, after) ← pieces? rest
      pure (.char c :: ps, after)

/-- Whether the code unit is the first half of a surrogate pair. -/
def isLead (n : Nat) : Bool := 0xd800 ≤ n && n < 0xdc00

/-- Whether the code unit is the second half of a surrogate pair. -/
def isTrail (n : Nat) : Bool := 0xdc00 ≤ n && n < 0xe000

/-- The characters of the pieces, if every surrogate has its other half next to it. -/
def assemble? : List Piece → Option (List Char)
  | [] => some []
  | .char c :: rest => (assemble? rest).map (c :: ·)
  | .unit n :: .unit m :: rest =>
    if isLead n then
      if isTrail m then
        (assemble? rest).map (Char.ofNat (0x10000 + (n - 0xd800) * 0x400 + (m - 0xdc00)) :: ·)
      else none
    else if isTrail n then none
    else (assemble? (.unit m :: rest)).map (Char.ofNat n :: ·)
  | .unit n :: rest =>
    if isLead n || isTrail n then none else (assemble? rest).map (Char.ofNat n :: ·)

/-! ## Numerals -/

/-- Whether the character is an ASCII digit. -/
def isDigit (c : Char) : Bool := '0' ≤ c && c ≤ '9'

/-- A non-empty run of digits, and what follows. -/
def run? (cs : List Char) : Option (List Char × List Char) :=
  match cs.takeWhile isDigit with
  | [] => none
  | d :: ds => some (d :: ds, cs.dropWhile isDigit)

/-- The digits of a fraction, and what follows; there need not be one. -/
def fraction? : List Char → Option (Option (List Char) × List Char)
  | '.' :: rest => (run? rest).map fun (ds, after) => (some ds, after)
  | cs => some (none, cs)

/-- The sign in front of an exponent. -/
def exponentSign : List Char → Bool × List Char
  | '+' :: rest => (false, rest)
  | '-' :: rest => (true, rest)
  | cs => (false, cs)

/-- The exponent behind a mark `e` or `E`, and what follows; there need not be one. -/
def exponent? : List Char → Option (Option Int × List Char)
  | [] => some (none, [])
  | c :: rest =>
    if c = 'e' ∨ c = 'E' then
      let (negative, digits) := exponentSign rest
      do
        let (ds, after) ← run? digits
        let n ← Text.digitsFrom? 0 ds
        pure (some (if negative then -(n : Int) else n), after)
    else some (none, c :: rest)

/-- A numeral without its sign, and what follows. A zero before other digits is refused. -/
def magnitude? (negative : Bool) (cs : List Char) : Option (Number × List Char) := do
  let (whole, r₁) ← run? cs
  -- a zero stands alone in front of the point
  if whole.head? = some '0' ∧ whole.length ≠ 1 then none
  else do
    let (frac, r₂) ← fraction? r₁
    let (exp, r₃) ← exponent? r₂
    pure (Number.ofNumeral negative whole frac exp, r₃)

/-- A numeral, and what follows. -/
def numeral? : List Char → Option (Number × List Char)
  | '-' :: rest => magnitude? true rest
  | cs => magnitude? false cs

/-! ## One token -/

/-- The first token of a text without gap in front, and what follows. -/
def first? : List Char → Option (Token × List Char)
  | '\x7b' :: rest => some (.openBrace, rest)
  | '\x7d' :: rest => some (.closeBrace, rest)
  | '[' :: rest => some (.openBracket, rest)
  | ']' :: rest => some (.closeBracket, rest)
  | ',' :: rest => some (.comma, rest)
  | ':' :: rest => some (.colon, rest)
  | '"' :: rest => (pieces? rest).map fun (ps, after) =>
      (.text ((assemble? ps).map String.ofList), after)
  | 'n' :: 'u' :: 'l' :: 'l' :: rest => some (.null, rest)
  | 't' :: 'r' :: 'u' :: 'e' :: rest => some (.bool true, rest)
  | 'f' :: 'a' :: 'l' :: 's' :: 'e' :: rest => some (.bool false, rest)
  | cs => (numeral? cs).map fun (n, after) => (.num n, after)

/-! ### What is left is shorter -/

theorem length_dropWhile_le {α : Type} (p : α → Bool) (l : List α) :
    (l.dropWhile p).length ≤ l.length :=
  (List.dropWhile_suffix p).length_le

theorem length_of_pieces? {cs : List Char} {ps : List Piece} {after : List Char}
    (h : pieces? cs = some (ps, after)) : after.length < cs.length := by
  fun_induction pieces? cs generalizing ps after with
  | case1 => simp at h
  | case2 rest => simp at h; simp [h.2]
  | case3 a b c d rest ih =>
    simp only [Option.bind_eq_bind, Option.bind_eq_some_iff, Option.pure_def,
      Option.some.injEq, Prod.mk.injEq] at h
    obtain ⟨n, _, ⟨qs, r⟩, hr, _, rfl⟩ := h
    have := ih hr
    simp only [List.length_cons]; omega
  | case4 e rest _ ih =>
    simp only [Option.bind_eq_bind, Option.bind_eq_some_iff, Option.pure_def,
      Option.some.injEq, Prod.mk.injEq] at h
    obtain ⟨c, _, ⟨qs, r⟩, hr, _, rfl⟩ := h
    have := ih hr
    simp only [List.length_cons]; omega
  | case5 => simp at h
  | case6 c rest _ _ _ _ ih =>
    simp only [Option.bind_eq_bind, Option.bind_eq_some_iff, Option.pure_def,
      Option.some.injEq, Prod.mk.injEq] at h
    obtain ⟨⟨qs, r⟩, hr, _, rfl⟩ := h
    have := ih hr
    simp only [List.length_cons]; omega

theorem length_of_run? {cs ds after : List Char} (h : run? cs = some (ds, after)) :
    after.length < cs.length := by
  unfold run? at h
  split at h
  · simp at h
  · rename_i d ds' hd
    simp only [Option.some.injEq, Prod.mk.injEq] at h
    have := congrArg List.length (List.takeWhile_append_dropWhile (p := isDigit) (l := cs))
    rw [hd] at this
    simp at this
    rw [← h.2]
    omega

theorem length_of_fraction? {cs after : List Char} {ds : Option (List Char)}
    (h : fraction? cs = some (ds, after)) : after.length ≤ cs.length := by
  unfold fraction? at h
  split at h
  · rename_i rest
    obtain ⟨⟨es, r⟩, hr, he⟩ := Option.map_eq_some_iff.1 h
    simp only [Prod.mk.injEq] at he
    have := length_of_run? hr
    rw [← he.2]
    simp only [List.length_cons]; omega
  · simp at h; simp [h.2]

theorem length_exponentSign (cs : List Char) : (exponentSign cs).2.length ≤ cs.length := by
  unfold exponentSign
  split <;> simp

theorem length_of_exponent? {cs after : List Char} {e : Option Int}
    (h : exponent? cs = some (e, after)) : after.length ≤ cs.length := by
  unfold exponent? at h
  split at h
  · simp at h; simp [h.2]
  · rename_i c rest
    split at h
    · simp only [Option.bind_eq_bind, Option.bind_eq_some_iff, Option.pure_def,
        Option.some.injEq, Prod.mk.injEq] at h
      obtain ⟨⟨ds, r⟩, hr, n, _, _, rfl⟩ := h
      have h₁ := length_of_run? hr
      have h₂ := length_exponentSign rest
      simp only [List.length_cons]
      omega
    · simp only [Option.some.injEq, Prod.mk.injEq] at h
      simp [← h.2]

theorem length_of_magnitude? {negative : Bool} {cs after : List Char} {n : Number}
    (h : magnitude? negative cs = some (n, after)) : after.length < cs.length := by
  unfold magnitude? at h
  simp only [Option.bind_eq_bind, Option.bind_eq_some_iff, Option.pure_def] at h
  obtain ⟨⟨ds, r₁⟩, h₁, h⟩ := h
  simp only at h
  split at h
  · simp at h
  · simp only [Option.bind_eq_some_iff, Option.some.injEq, Prod.mk.injEq] at h
    obtain ⟨⟨f, r₂⟩, h₂, ⟨e, r₃⟩, h₃, _, rfl⟩ := h
    have := length_of_run? h₁
    have := length_of_fraction? h₂
    have := length_of_exponent? h₃
    simp only at *
    omega

theorem length_of_numeral? {cs after : List Char} {n : Number}
    (h : numeral? cs = some (n, after)) : after.length < cs.length := by
  unfold numeral? at h
  split at h
  · have := length_of_magnitude? h
    simp only [List.length_cons]; omega
  · exact length_of_magnitude? h

theorem length_of_first? {cs after : List Char} {t : Token}
    (h : first? cs = some (t, after)) : after.length < cs.length := by
  unfold first? at h
  split at h
  case h_7 rest =>
    obtain ⟨⟨ps, r⟩, hr, he⟩ := Option.map_eq_some_iff.1 h
    simp only [Prod.mk.injEq] at he
    have := length_of_pieces? hr
    rw [← he.2]
    simp only [List.length_cons]; omega
  case h_11 =>
    obtain ⟨⟨n, r⟩, hr, he⟩ := Option.map_eq_some_iff.1 h
    simp only [Prod.mk.injEq] at he
    rw [← he.2]
    exact length_of_numeral? hr
  all_goals
    simp only [Option.some.injEq, Prod.mk.injEq] at h
    simp [← h.2] <;> omega

/-! ## All tokens -/

/-- The tokens of a text, or nothing if some part of it is no token. -/
def scan? (cs : List Char) : Option (List Token) :=
  match _cut : cs.dropWhile isGap with
  | [] => some []
  | c :: rest =>
    match _head : first? (c :: rest) with
    | none => none
    | some (t, after) => (scan? after).map (t :: ·)
termination_by cs.length
decreasing_by
  have h₁ := length_of_first? _head
  have h₂ := length_dropWhile_le isGap cs
  rw [_cut] at h₂
  omega

end Token

end OsdMigration.Json
