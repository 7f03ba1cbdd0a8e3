set_option autoImplicit false

/-! # UTF-8

Bytes are read as characters, each written in one to four bytes in the only way that is allowed
for it. Where they cannot be read, the place of the first bad sequence is known, and whether it
is wrong or only cut off by the end. A reader that goes on behind a bad sequence finds it as long
as it was looked at.
-/

namespace OsdMigration.Text.Utf8

/-- A sequence of bytes that is no character: how many bytes of it were looked at, if it is wrong
and not only cut off. -/
abbrev Fault := Option Nat

/-- Where the first bad sequence begins, and what is bad about it. -/
structure Invalid where
  place : Nat
  fault : Fault
deriving DecidableEq, Repr

/-- The fault in words. -/
def Invalid.message (i : Invalid) : String :=
  match i.fault with
  | none => "incomplete utf-8 byte sequence from index " ++ toString i.place
  | some n => "invalid utf-8 sequence of " ++ toString n ++ " bytes from index "
      ++ toString i.place

/-- Whether a byte continues a character. -/
def continues (b : UInt8) : Bool := 0x80 ≤ b && b ≤ 0xbf

/-- The six bits of a continuing byte. -/
def bits (b : UInt8) : Nat := b.toNat % 64

/-- The bytes a character may go on with after a first byte of a longer sequence. -/
def secondOk (first second : UInt8) : Bool :=
  if first = 0xe0 then 0xa0 ≤ second && second ≤ 0xbf
  else if first = 0xed then 0x80 ≤ second && second ≤ 0x9f
  else if first = 0xf0 then 0x90 ≤ second && second ≤ 0xbf
  else if first = 0xf4 then 0x80 ≤ second && second ≤ 0x8f
  else continues second

/-- How many bytes a character with the first byte has, if there is one. -/
def width? (first : UInt8) : Option Nat :=
  if first < 0x80 then some 1
  else if 0xc2 ≤ first && first ≤ 0xdf then some 2
  else if 0xe0 ≤ first && first ≤ 0xef then some 3
  else if 0xf0 ≤ first && first ≤ 0xf4 then some 4
  else none

/-- The first character, with the number of its bytes. -/
def first? (b : UInt8) (rest : List UInt8) : Except Fault (Char × Nat) :=
  match width? b with
  | none => .error (some 1)
  | some 1 => .ok (Char.ofNat b.toNat, 1)
  | some 2 =>
    match rest with
    | [] => .error none
    | c :: _ =>
      if continues c then .ok (Char.ofNat (b.toNat % 32 * 64 + bits c), 2) else .error (some 1)
  | some 3 =>
    match rest with
    | [] => .error none
    | c :: rest =>
      -- the second byte also rules out longer forms than needed, and surrogates
      if !secondOk b c then .error (some 1)
      else
        match rest with
        | [] => .error none
        | d :: _ =>
          if continues d then
            .ok (Char.ofNat ((b.toNat % 16 * 64 + bits c) * 64 + bits d), 3)
          else .error (some 2)
  | some _ =>
    match rest with
    | [] => .error none
    | c :: rest =>
      if !secondOk b c then .error (some 1)
      else
        match rest with
        | [] => .error none
        | d :: rest =>
          if !continues d then .error (some 2)
          else
            match rest with
            | [] => .error none
            | e :: _ =>
              if continues e then
                .ok (Char.ofNat (((b.toNat % 8 * 64 + bits c) * 64 + bits d) * 64 + bits e), 4)
              else .error (some 3)

/-- The characters of the bytes. Bytes of a character that was read already are skipped; `place`
counts the bytes before. -/
def decodeFrom (skip place : Nat) : List UInt8 → Except Invalid (List Char)
  | [] => .ok []
  | b :: rest =>
    match skip with
    | n + 1 => decodeFrom n (place + 1) rest
    | 0 =>
      match first? b rest with
      | .error fault => .error ⟨place, fault⟩
      | .ok (c, width) =>
        match decodeFrom (width - 1) (place + 1) rest with
        | .ok cs => .ok (c :: cs)
        | .error i => .error i

/-- The text of the bytes. -/
def decode (bytes : List UInt8) : Except Invalid String :=
  (decodeFrom 0 0 bytes).map String.ofList

/-! ## Bytes with bad sequences -/

/-- The characters of the bytes, with nothing in the place of each bad sequence. Bytes that were
read already are skipped. -/
def partsFrom (skip : Nat) : List UInt8 → List (Option Char)
  | [] => []
  | b :: rest =>
    match skip with
    | n + 1 => partsFrom n rest
    | 0 =>
      match first? b rest with
      | .ok (c, width) => some c :: partsFrom (width - 1) rest
      | .error (some n) => none :: partsFrom (n - 1) rest
      -- a sequence that is cut off is the last one
      | .error none => [none]

/-- The characters of the bytes, with nothing in the place of each bad sequence. -/
def parts (bytes : List UInt8) : List (Option Char) := partsFrom 0 bytes

/-- The text of the bytes, with a replacement character in the place of each bad sequence. -/
def decodeLossy (bytes : List UInt8) : String :=
  String.ofList ((parts bytes).map fun c => c.getD '\ufffd')

end OsdMigration.Text.Utf8
