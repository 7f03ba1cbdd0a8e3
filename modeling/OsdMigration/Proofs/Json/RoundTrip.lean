import OsdMigration.Json.Parser
import OsdMigration.Json.Printer
import OsdMigration.Proofs.Json.Decimal

set_option autoImplicit false

/-! # Values as JSON text

A value in which nothing is unreadable and no number too large has a text that can be read. What is
read is the value with its double precision numbers as they are read from theirs
(`parse?_render_reread`), and so the value itself if these are read exactly (`parse?_render`).
The text is cut into the tokens of the value, and these are put together again; each half is an
induction on the value, with what stands behind it kept general.
-/

namespace OsdMigration.Json

/-! ## Texts -/

namespace Token

/-- The controls that have an escape of their own. -/
def shortControls : List Char := ['\x08', '\x0c', '\n', '\r', '\t']

/-- The piece that a character of a text is read as. -/
def pieceOf (c : Char) : Piece :=
  if c < ' ' ∧ c ∉ shortControls then .unit c.toNat else .char c

/-- The other controls are written by their numbers, in four digits. -/
theorem unit?_control : ∀ n < 32,
    List.replicate (4 - (Text.hexDigits n).length) '0' ++ Text.hexDigits n =
        ['0', '0', Nat.digitChar (n / 16), Nat.digitChar (n % 16)] ∧
      unit? '0' '0' (Nat.digitChar (n / 16)) (Nat.digitChar (n % 16)) = some n := by
  decide

theorem pieces?_plain {c : Char} (cs : List Char) (hquote : c ≠ '"') (hback : c ≠ '\\')
    (hc : ¬ c < ' ') : pieces? (c :: cs) = (pieces? cs).map fun r => (.char c :: r.1, r.2) := by
  rw [pieces?, if_neg hc]
  · cases pieces? cs <;> rfl
  · exact hquote
  · rintro _ _ _ _ _ rfl
    exact absurd rfl hback
  · rintro _ _ rfl
    exact absurd rfl hback

/-- A character is read back from its escape. -/
theorem pieces?_escapeChar (c : Char) (cs : List Char) :
    pieces? (escapeChar c ++ cs) = (pieces? cs).map fun r => (pieceOf c :: r.1, r.2) := by
  by_cases hquote : c = '"'
  · subst hquote
    cases h : pieces? cs <;> simp [escapeChar, pieces?, escaped?, h, pieceOf]
  by_cases hback : c = '\\'
  · subst hback
    cases h : pieces? cs <;> simp [escapeChar, pieces?, escaped?, h, pieceOf]
  by_cases hshort : c ∈ shortControls
  · have hp : pieceOf c = .char c := if_neg fun h => h.2 hshort
    simp only [shortControls, List.mem_cons, List.not_mem_nil, or_false] at hshort
    rcases hshort with rfl | rfl | rfl | rfl | rfl <;>
      cases h : pieces? cs <;> simp [escapeChar, pieces?, escaped?, h, hp]
  have hescape : escapeChar c = if c < ' ' then
      ['\\', 'u'] ++ List.replicate (4 - (Text.hexDigits c.toNat).length) '0' ++
        Text.hexDigits c.toNat else [c] := by
    simp only [shortControls, List.mem_cons, List.not_mem_nil, or_false, not_or] at hshort
    obtain ⟨h₁, h₂, h₃, h₄, h₅⟩ := hshort
    simp [escapeChar, hquote, hback, h₁, h₂, h₃, h₄, h₅]
  by_cases hc : c < ' '
  · obtain ⟨hdigits, hunit⟩ := unit?_control c.toNat hc
    have hp : pieceOf c = .unit c.toNat := if_pos ⟨hc, hshort⟩
    rw [hescape, if_pos hc, List.append_assoc ['\\', 'u'], hdigits, hp]
    cases h : pieces? cs <;> simp [pieces?, hunit, h]
  · have hp : pieceOf c = .char c := if_neg fun h => hc h.1
    rw [hescape, if_neg hc, hp]
    exact pieces?_plain cs hquote hback hc

theorem pieces?_escaped (s rest : List Char) :
    pieces? (s.flatMap escapeChar ++ '"' :: rest) = some (s.map pieceOf, rest) := by
  induction s with
  | nil => simp [pieces?]
  | cons c s ih =>
      rw [List.flatMap_cons, List.append_assoc, pieces?_escapeChar, ih]
      rfl

theorem assemble?_pieceOf (c : Char) (ps : List Piece) :
    assemble? (pieceOf c :: ps) = (assemble? ps).map (c :: ·) := by
  unfold pieceOf
  split
  · rename_i h
    have hn : c.toNat < 32 := h.1
    have hlead : isLead c.toNat = false := by simp [isLead]; omega
    have htrail : isTrail c.toNat = false := by simp [isTrail]; omega
    cases ps with
    | nil => simp [assemble?, hlead, htrail]
    | cons p ps => cases p <;> simp [assemble?, hlead, htrail]
  · rw [assemble?]

theorem assemble?_pieces (s : List Char) : assemble? (s.map pieceOf) = some s := by
  induction s with
  | nil => rfl
  | cons c s ih =>
      rw [List.map_cons, assemble?_pieceOf, ih]
      rfl

/-- A text is read back from between its quotes. -/
theorem first?_renderText (s : String) (rest : List Char) :
    first? ((renderText s).toList ++ rest) = some (.text (some s), rest) := by
  have h : (renderText s).toList ++ rest = '"' :: (s.toList.flatMap escapeChar ++ '"' :: rest) := by
    simp [renderText]
  rw [h, first?, pieces?_escaped, Option.map_some]
  simp only [assemble?_pieces, Option.map_some, String.ofList_toList]

end Token

/-! ## Values that can be written -/

/-- What holds of all values holds of a value if it holds of every array whose items it holds of,
and likewise of every object. -/
theorem inductionOn {P : Json → Prop} (j : Json) (null : P .null) (bool : ∀ b, P (.bool b))
    (num : ∀ n, P (.num n)) (str : ∀ s, P (.str s))
    (arr : ∀ items, (∀ j ∈ items, P j) → P (.arr items))
    (obj : ∀ members, (∀ m ∈ members, P m.2) → P (.obj members)) (unreadable : P .unreadable) :
    P j :=
  Json.rec (motive_1 := P) (motive_2 := fun items => ∀ j ∈ items, P j)
    (motive_3 := fun members => ∀ m ∈ members, P m.2) (motive_4 := fun m => P m.2)
    null bool num str arr obj unreadable nofun
    (fun _ _ hhead htail => List.forall_mem_cons.2 ⟨hhead, htail⟩) nofun
    (fun _ _ hhead htail => List.forall_mem_cons.2 ⟨hhead, htail⟩) (fun _ _ h => h) j

/-- Whether a number has a numeral. -/
def Number.isLegible : Number → Bool
  | .whole i => decide (Token.Exact i)
  | .real _ => true
  | .huge => false

/-- Whether a number has a numeral from which it is read back. -/
def Number.isExact (n : Number) : Bool := n.isLegible && decide (n.reread = n)

mutual

/-- Whether the numbers in a value are all of a kind, and nothing in it is unreadable. -/
def numbersAre (p : Number → Bool) : Json → Bool
  | .num n => p n
  | .unreadable => false
  | .arr items => itemsAre p items
  | .obj members => membersAre p members
  | _ => true

/-- Whether that holds of all items. -/
def itemsAre (p : Number → Bool) : List Json → Bool
  | [] => true
  | j :: rest => numbersAre p j && itemsAre p rest

/-- Whether that holds of the values of all members. -/
def membersAre (p : Number → Bool) : List (String × Json) → Bool
  | [] => true
  | (_, j) :: rest => numbersAre p j && membersAre p rest

end

/-- Whether a value has a text. -/
def isLegible (j : Json) : Bool := j.numbersAre Number.isLegible

/-- Whether a value has a text from which it is read back. -/
def isExact (j : Json) : Bool := j.numbersAre Number.isExact

section

variable {p q : Number → Bool}

theorem itemsAre_iff {items : List Json} :
    itemsAre p items = true ↔ ∀ j ∈ items, j.numbersAre p = true := by
  induction items with
  | nil => simp [itemsAre]
  | cons j items ih => simp [itemsAre, ih]

theorem membersAre_iff {members : List (String × Json)} :
    membersAre p members = true ↔ ∀ m ∈ members, m.2.numbersAre p = true := by
  induction members with
  | nil => simp [membersAre]
  | cons m members ih => simp [membersAre, ih]

theorem numbersAre_mono {j : Json} (hpq : ∀ n, p n = true → q n = true)
    (h : j.numbersAre p = true) : j.numbersAre q = true := by
  induction j using inductionOn with
  | num n => exact hpq n h
  | arr items ih =>
      rw [numbersAre, itemsAre_iff] at h ⊢
      exact fun j hj => ih j hj (h j hj)
  | obj members ih =>
      rw [numbersAre, membersAre_iff] at h ⊢
      exact fun m hm => ih m hm (h m hm)
  | unreadable => cases h
  | _ => rfl

end

theorem isExact_ofNat {n : Nat} (hn : n < UInt64.size) : (ofNat n).isExact = true := by
  have hlt : n < 18446744073709551616 := hn
  have hexact : Token.Exact n := ⟨by omega, by omega⟩
  simp [isExact, ofNat, numbersAre, Number.isExact, Number.isLegible, Number.reread, hexact]

theorem isLegible_of_isExact {j : Json} (h : j.isExact = true) : j.isLegible = true :=
  numbersAre_mono (fun _ hn => (Bool.and_eq_true _ _ ▸ hn).1) h

/-! ## What is read from a text -/

mutual

/-- What is read from the text of a value. -/
def reread : Json → Json
  | .num n => .num n.reread
  | .arr items => .arr (rereadItems items)
  | .obj members => .obj (rereadMembers members)
  | j => j

/-- What is read from the texts of items. -/
def rereadItems : List Json → List Json
  | [] => []
  | j :: rest => reread j :: rereadItems rest

/-- What is read from the texts of members. -/
def rereadMembers : List (String × Json) → List (String × Json)
  | [] => []
  | (name, j) :: rest => (name, reread j) :: rereadMembers rest

end

theorem rereadItems_eq_map (items : List Json) : rereadItems items = items.map reread := by
  induction items with
  | nil => rfl
  | cons j items ih => rw [rereadItems, ih, List.map_cons]

theorem rereadMembers_eq_map (members : List (String × Json)) :
    rereadMembers members = members.map fun m => (m.1, m.2.reread) := by
  induction members with
  | nil => rfl
  | cons m members ih => rw [rereadMembers, ih, List.map_cons]

/-- An exact value is read back. -/
theorem reread_of_isExact {j : Json} (h : j.isExact = true) : j.reread = j := by
  induction j using inductionOn with
  | num n =>
      have hn : n.isExact = true := h
      rw [Number.isExact, Bool.and_eq_true, decide_eq_true_eq] at hn
      exact congrArg Json.num hn.2
  | arr items ih =>
      rw [isExact, numbersAre, itemsAre_iff] at h
      have hsame : ∀ j ∈ items, j.reread = j := fun j hj => ih j hj (h j hj)
      rw [reread, rereadItems_eq_map, List.map_congr_left hsame, List.map_id']
  | obj members ih =>
      rw [isExact, numbersAre, membersAre_iff] at h
      have hsame : ∀ m ∈ members, (m.1, m.2.reread) = m := fun m hm =>
        Prod.ext rfl (ih m hm (h m hm))
      rw [reread, rereadMembers_eq_map, List.map_congr_left hsame, List.map_id']
  | _ => rfl

/-- What is read has a value in every part. -/
theorem numbersAre_reread {p : Number → Bool} {j : Json} (h : j.numbersAre p = true) :
    j.reread.numbersAre (fun _ => true) = true := by
  induction j using inductionOn with
  | arr items ih =>
      rw [numbersAre, itemsAre_iff] at h
      rw [reread, numbersAre, itemsAre_iff, rereadItems_eq_map, List.forall_mem_map]
      exact fun j hj => ih j hj (h j hj)
  | obj members ih =>
      rw [numbersAre, membersAre_iff] at h
      rw [reread, numbersAre, membersAre_iff, rereadMembers_eq_map, List.forall_mem_map]
      exact fun m hm => ih m hm (h m hm)
  | unreadable => cases h
  | _ => rfl

/-! ## The tokens of a value -/

mutual

/-- The tokens in the text of a value. -/
def tokens : Json → List Token
  | .null => [.null]
  | .bool b => [.bool b]
  | .num n => [.num n]
  | .str s => [.text (some s)]
  | .arr items => .openBracket :: (itemTokens items ++ [.closeBracket])
  | .obj members => .openBrace :: (memberTokens members ++ [.closeBrace])
  | .unreadable => []

/-- The tokens of the items of an array. -/
def itemTokens : List Json → List Token
  | [] => []
  | [j] => tokens j
  | j :: k :: rest => tokens j ++ .comma :: itemTokens (k :: rest)

/-- The tokens of the members of an object. -/
def memberTokens : List (String × Json) → List Token
  | [] => []
  | [(name, j)] => .text (some name) :: .colon :: tokens j
  | (name, j) :: m :: rest =>
    .text (some name) :: .colon :: (tokens j ++ .comma :: memberTokens (m :: rest))

end

namespace Token

/-- A token at the beginning of a text is taken off. -/
theorem scan?_cons {cs after : List Char} {t : Token} (hgap : ∀ c ∈ cs.head?, isGap c = false)
    (h : first? cs = some (t, after)) {ts : List Token} (ha : scan? after = some ts) :
    scan? cs = some (t :: ts) := by
  cases cs with
  | nil => cases h
  | cons c cs =>
      have hdrop : (c :: cs).dropWhile isGap = c :: cs := by
        simp [hgap c rfl]
      rw [scan?]
      split
      · rename_i hc
        rw [hdrop] at hc
        cases hc
      · rename_i d rest hc
        rw [hdrop] at hc
        cases hc
        split
        · rename_i hn
          rw [h] at hn
          cases hn
        · rename_i t' after' hn
          rw [h] at hn
          cases hn
          rw [ha]
          rfl

/-- A single character that is a token. -/
theorem scan?_sign {c : Char} {t : Token} {rest : List Char} {ts : List Token}
    (h : first? (c :: rest) = some (t, rest)) (hgap : isGap c = false)
    (hr : scan? rest = some ts) : scan? (c :: rest) = some (t :: ts) := by
  refine scan?_cons ?_ h hr
  rintro _ ⟨⟩
  exact hgap

theorem endsNumeral_cons {c : Char} (rest : List Char)
    (h : isDigit c = false ∧ c ≠ '.' ∧ c ≠ 'e' ∧ c ≠ 'E') : EndsNumeral (c :: rest) := by
  rintro _ ⟨⟩
  exact h

/-- A text that begins like a numeral is read as one. -/
theorem first?_of_numeral {c : Char} {cs : List Char} (h : isDigit c = true ∨ c = '-') :
    first? (c :: cs) = (numeral? (c :: cs)).map fun r => (.num r.1, r.2) := by
  rw [first?]
  -- the characters that begin other tokens are none of these
  all_goals
    rintro rest he
    obtain rfl := (List.cons.inj he).1
    revert h
    decide

/-- A number is read from its numeral. -/
theorem numeral?_render {n : Number} (hn : n.isLegible = true) {rest : List Char}
    (hr : EndsNumeral rest) : numeral? (n.render.toList ++ rest) = some (n.reread, rest) := by
  cases n with
  | whole i => exact numeral?_toString (of_decide_eq_true hn) hr
  | real x => exact numeral?_text x hr
  | huge => cases hn

/-- How a numeral begins. -/
theorem exists_cons_of_numeral? {cs : List Char} {r : Number × List Char}
    (h : numeral? cs = some r) :
    ∃ c rest, cs = c :: rest ∧ (isDigit c = true ∨ c = '-') := by
  unfold numeral? at h
  split at h
  · exact ⟨'-', _, rfl, .inr rfl⟩
  · cases cs with
    | nil => cases h
    | cons c cs =>
        by_cases hc : isDigit c = true
        · exact ⟨c, cs, rfl, .inl hc⟩
        · simp [magnitude?, run?, hc] at h

theorem scan?_numeral {n : Number} (hn : n.isLegible = true) {rest : List Char} {ts : List Token}
    (hr : EndsNumeral rest) (h : scan? rest = some ts) :
    scan? (n.render.toList ++ rest) = some (.num n.reread :: ts) := by
  have hnumeral := numeral?_render hn hr
  obtain ⟨c, cs, hc, hfirst⟩ := exists_cons_of_numeral? hnumeral
  have hgap : isGap c = false := by
    rcases hfirst with hd | rfl
    · simp only [isDigit, Bool.and_eq_true, decide_eq_true_eq] at hd
      simp only [isGap, Bool.or_eq_false_iff, beq_eq_false_iff_ne]
      refine ⟨⟨⟨?_, ?_⟩, ?_⟩, ?_⟩ <;> rintro rfl <;> exact absurd hd (by decide)
    · rfl
  rw [hc] at hnumeral ⊢
  refine scan?_cons ?_ ?_ h
  · rintro _ ⟨⟩
    exact hgap
  · rw [first?_of_numeral hfirst, hnumeral]
    rfl

theorem scan?_text (s : String) {rest : List Char} {ts : List Token} (h : scan? rest = some ts) :
    scan? ((renderText s).toList ++ rest) = some (.text (some s) :: ts) := by
  refine scan?_cons ?_ (first?_renderText s rest) h
  have hquote : (renderText s).toList ++ rest =
      '"' :: (s.toList.flatMap escapeChar ++ '"' :: rest) := by
    simp [renderText]
  rw [hquote]
  rintro _ ⟨⟩
  rfl

end Token

open Token (EndsNumeral endsNumeral_cons scan? scan?_cons scan?_numeral scan?_sign scan?_text)

mutual

/-- The text of a value is cut into the tokens of what is read from it. -/
theorem scan?_render (j : Json) (hj : j.isLegible = true) {rest : List Char} {ts : List Token}
    (hr : EndsNumeral rest) (h : scan? rest = some ts) :
    scan? (j.render.toList ++ rest) = some (tokens j.reread ++ ts) := by
  cases j with
  | null => exact scan?_cons (by simp [render, Token.isGap]) rfl h
  | bool b =>
      cases b with
      | false => exact scan?_cons (by simp [render, Token.isGap]) rfl h
      | true => exact scan?_cons (by simp [render, Token.isGap]) rfl h
  | num n => exact scan?_numeral (by simpa [isLegible, numbersAre] using hj) hr h
  | str s => exact scan?_text s h
  | arr items =>
      have hend : scan? (']' :: rest) = some (.closeBracket :: ts) := scan?_sign rfl rfl h
      have hitems := scan?_renderItems items (by simpa [isLegible, numbersAre] using hj)
        (endsNumeral_cons rest (by decide)) hend
      have htext : (render (.arr items)).toList ++ rest =
          '[' :: ((renderItems items).toList ++ ']' :: rest) := by
        simp [render]
      rw [htext, reread, tokens, List.cons_append, List.append_assoc]
      exact scan?_sign rfl rfl hitems
  | obj members =>
      have hend : scan? ('\x7d' :: rest) = some (.closeBrace :: ts) := scan?_sign rfl rfl h
      have hmembers := scan?_renderMembers members (by simpa [isLegible, numbersAre] using hj)
        (endsNumeral_cons rest (by decide)) hend
      have htext : (render (.obj members)).toList ++ rest =
          '\x7b' :: ((renderMembers members).toList ++ '\x7d' :: rest) := by
        simp [render]
      rw [htext, reread, tokens, List.cons_append, List.append_assoc]
      exact scan?_sign rfl rfl hmembers
  | unreadable => simp [isLegible, numbersAre] at hj

/-- Likewise the texts of the items of an array. -/
theorem scan?_renderItems (items : List Json) (hj : itemsAre Number.isLegible items = true)
    {rest : List Char} {ts : List Token} (hr : EndsNumeral rest) (h : scan? rest = some ts) :
    scan? ((renderItems items).toList ++ rest) = some (itemTokens (rereadItems items) ++ ts) := by
  match items, hj with
  | [], _ => simpa [renderItems, rereadItems, itemTokens] using h
  | [j], hj => exact scan?_render j (by simpa [isLegible, itemsAre] using hj) hr h
  | j :: k :: items, hj =>
      obtain ⟨hj, hitems⟩ : j.isLegible = true ∧ itemsAre Number.isLegible (k :: items) = true := by
        simpa [isLegible, itemsAre] using hj
      have hcomma : scan? (',' :: ((renderItems (k :: items)).toList ++ rest)) = _ :=
        scan?_sign rfl rfl (scan?_renderItems (k :: items) hitems hr h)
      have htext : (renderItems (j :: k :: items)).toList ++ rest =
          j.render.toList ++ ',' :: ((renderItems (k :: items)).toList ++ rest) := by
        simp [renderItems]
      rw [htext, rereadItems, rereadItems, itemTokens, List.append_assoc]
      exact scan?_render j hj (endsNumeral_cons _ (by decide)) hcomma

/-- Likewise the texts of the members of an object. -/
theorem scan?_renderMembers (members : List (String × Json))
    (hj : membersAre Number.isLegible members = true) {rest : List Char} {ts : List Token}
    (hr : EndsNumeral rest) (h : scan? rest = some ts) :
    scan? ((renderMembers members).toList ++ rest) =
      some (memberTokens (rereadMembers members) ++ ts) := by
  match members, hj with
  | [], _ => simpa [renderMembers, rereadMembers, memberTokens] using h
  | [(name, j)], hj =>
      have hvalue := scan?_render j (by simpa [isLegible, membersAre] using hj) hr h
      have htext : (renderMembers [(name, j)]).toList ++ rest =
          (renderText name).toList ++ ':' :: (j.render.toList ++ rest) := by
        simp [renderMembers]
      rw [htext]
      exact scan?_text name (scan?_sign rfl rfl hvalue)
  | (name, j) :: m :: members, hj =>
      obtain ⟨hj, hmembers⟩ :
          j.isLegible = true ∧ membersAre Number.isLegible (m :: members) = true := by
        simpa [isLegible, membersAre] using hj
      have hcomma : scan? (',' :: ((renderMembers (m :: members)).toList ++ rest)) = _ :=
        scan?_sign rfl rfl (scan?_renderMembers (m :: members) hmembers hr h)
      have hvalue := scan?_render j hj (endsNumeral_cons _ (by decide)) hcomma
      have htext : (renderMembers ((name, j) :: m :: members)).toList ++ rest =
          (renderText name).toList ++
            ':' :: (j.render.toList ++ ',' :: ((renderMembers (m :: members)).toList ++ rest)) := by
        simp [renderMembers]
      rw [htext, rereadMembers, rereadMembers, memberTokens, List.cons_append, List.cons_append,
        List.append_assoc]
      exact scan?_text name (scan?_sign rfl rfl hvalue)

end

/-! ## The value of the tokens -/

section

variable {p : Number → Bool}

theorem ofTokens?_cons (stage : Stage) (stack : List Frame) (t : Token) (ts : List Token) :
    ofTokens? stage stack (t :: ts) =
      (step stage stack t).bind fun next => ofTokens? next.1 next.2 ts := by
  rw [ofTokens?]
  cases step stage stack t <;> rfl

/-- Members whose names can be read. -/
def named (members : List (String × Json)) : List (Option String × Json) :=
  members.map fun m => (some m.1, m.2)

theorem ofMembers_named (members : List (String × Json)) :
    ofMembers (named members) = .obj members := by
  have h : (named members).mapM (fun m => m.1.map fun n => (n, m.2)) = some members := by
    induction members with
    | nil => rfl
    | cons m members ih =>
        rw [named] at ih ⊢
        rw [List.map_cons, List.mapM_cons, ih]
        rfl
  unfold ofMembers
  rw [h]

/-- Where an array may end an item may stand as well, -/
theorem ofTokens?_itemOrEnd {j : Json} (hj : j.numbersAre p = true) (items : List Json)
    (stack : List Frame) (ts : List Token) :
    ofTokens? .itemOrEnd stack (itemTokens (j :: items) ++ ts) =
      ofTokens? .value stack (itemTokens (j :: items) ++ ts) := by
  have hvalue : ∀ rest, ofTokens? .itemOrEnd stack (tokens j ++ rest) =
      ofTokens? .value stack (tokens j ++ rest) := by
    intro rest
    cases j with
    | unreadable => simp [numbersAre] at hj
    | _ => simp [tokens, ofTokens?_cons, step, startValue]
  cases items with
  | nil => exact hvalue ts
  | cons k items =>
      rw [itemTokens, List.append_assoc]
      exact hvalue _

/-- and where an object may end a member. -/
theorem ofTokens?_nameOrEnd (m : String × Json) (members : List (String × Json))
    (before : List (Option String × Json)) (stack : List Frame) (ts : List Token) :
    ofTokens? .nameOrEnd (.object before :: stack) (memberTokens (m :: members) ++ ts) =
      ofTokens? .name (.object before :: stack) (memberTokens (m :: members) ++ ts) := by
  cases members <;> rfl

mutual

/-- The tokens of a value are put together again. -/
theorem ofTokens?_tokens (j : Json) (hj : j.numbersAre p = true) (stack : List Frame)
    (ts : List Token) :
    ofTokens? .value stack (tokens j ++ ts) = ofTokens? (.after j) stack ts := by
  cases j with
  | null => rfl
  | bool b => rfl
  | num n => rfl
  | str s => rfl
  | arr items =>
      cases items with
      | nil => rfl
      | cons j items =>
          rw [numbersAre] at hj
          have hfirst : j.numbersAre p = true := by
            rw [itemsAre, Bool.and_eq_true] at hj
            exact hj.1
          calc ofTokens? .value stack (tokens (.arr (j :: items)) ++ ts)
              = ofTokens? .itemOrEnd (.array [] :: stack)
                  (itemTokens (j :: items) ++ .closeBracket :: ts) := by
                rw [tokens, List.cons_append, List.append_assoc]
                rfl
            _ = ofTokens? .value (.array [] :: stack)
                  (itemTokens (j :: items) ++ .closeBracket :: ts) :=
                ofTokens?_itemOrEnd hfirst _ _ _
            _ = ofTokens? (.after (.arr (j :: items))) stack ts :=
                ofTokens?_itemTokens (j :: items) hj nofun [] stack ts
  | obj members =>
      cases members with
      | nil => rfl
      | cons m members =>
          rw [numbersAre] at hj
          calc ofTokens? .value stack (tokens (.obj (m :: members)) ++ ts)
              = ofTokens? .nameOrEnd (.object [] :: stack)
                  (memberTokens (m :: members) ++ .closeBrace :: ts) := by
                rw [tokens, List.cons_append, List.append_assoc]
                rfl
            _ = ofTokens? .name (.object [] :: stack)
                  (memberTokens (m :: members) ++ .closeBrace :: ts) :=
                ofTokens?_nameOrEnd m members [] stack _
            _ = ofTokens? (.after (ofMembers (named (m :: members)))) stack ts :=
                ofTokens?_memberTokens (m :: members) hj nofun [] stack ts
            _ = ofTokens? (.after (.obj (m :: members))) stack ts := by rw [ofMembers_named]
  | unreadable => simp [numbersAre] at hj

/-- The items of an array, behind others that have been read. -/
theorem ofTokens?_itemTokens (items : List Json) (hj : itemsAre p items = true) (hne : items ≠ [])
    (before : List Json) (stack : List Frame) (ts : List Token) :
    ofTokens? .value (.array before :: stack) (itemTokens items ++ .closeBracket :: ts) =
      ofTokens? (.after (.arr (before.reverse ++ items))) stack ts := by
  match items, hj with
  | [], _ => exact absurd rfl hne
  | [j], hj =>
      rw [itemsAre, Bool.and_eq_true] at hj
      rw [itemTokens, ofTokens?_tokens j hj.1, ofTokens?_cons]
      simp [step]
  | j :: k :: items, hj =>
      rw [itemsAre, Bool.and_eq_true] at hj
      have hrest := ofTokens?_itemTokens (k :: items) hj.2 nofun (j :: before) stack ts
      rw [itemTokens, List.append_assoc, ofTokens?_tokens j hj.1, List.cons_append, ofTokens?_cons]
      simpa [step] using hrest

/-- The members of an object, behind others that have been read. -/
theorem ofTokens?_memberTokens (members : List (String × Json))
    (hj : membersAre p members = true) (hne : members ≠ [])
    (before : List (Option String × Json)) (stack : List Frame) (ts : List Token) :
    ofTokens? .name (.object before :: stack) (memberTokens members ++ .closeBrace :: ts) =
      ofTokens? (.after (ofMembers (before.reverse ++ named members))) stack ts := by
  have hname : ∀ (name : String) (rest : List Token),
      ofTokens? .name (.object before :: stack) (.text (some name) :: .colon :: rest) =
        ofTokens? .value (.member before (some name) :: stack) rest := fun _ _ => rfl
  match members, hj with
  | [], _ => exact absurd rfl hne
  | [(name, j)], hj =>
      rw [membersAre, Bool.and_eq_true] at hj
      rw [memberTokens, List.cons_append, List.cons_append, hname, ofTokens?_tokens j hj.1,
        ofTokens?_cons]
      simp [step, named]
  | (name, j) :: m :: members, hj =>
      rw [membersAre, Bool.and_eq_true] at hj
      have hrest := ofTokens?_memberTokens (m :: members) hj.2 nofun ((some name, j) :: before)
        stack ts
      rw [memberTokens, List.cons_append, List.cons_append, List.append_assoc, hname,
        ofTokens?_tokens j hj.1, List.cons_append, ofTokens?_cons]
      simpa [step, named] using hrest

end

end

/-- What is read from the text of a value. -/
theorem parse?_render_reread {j : Json} (hj : j.isLegible = true) :
    parse? j.render = some j.reread := by
  have hnil : scan? [] = some [] := by
    rw [scan?]
    rfl
  have htokens : scan? (j.render.toList ++ []) = some (tokens j.reread ++ []) :=
    scan?_render j hj nofun hnil
  rw [List.append_nil, List.append_nil] at htokens
  have hvalue := ofTokens?_tokens j.reread (numbersAre_reread hj) [] []
  rw [List.append_nil] at hvalue
  rw [parse?, htokens, Option.bind_some, hvalue]
  rfl

/-- A value is read back from its text. -/
theorem parse?_render {j : Json} (hj : j.isExact = true) : parse? j.render = some j := by
  rw [parse?_render_reread (isLegible_of_isExact hj), reread_of_isExact hj]

end OsdMigration.Json
