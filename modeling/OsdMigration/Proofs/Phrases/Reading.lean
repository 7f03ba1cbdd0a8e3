import Mathlib.Data.List.Infix
import Mathlib.Data.Nat.Find
import OsdMigration.Proofs.Numeral
import OsdMigration.Proofs.Phrases

set_option autoImplicit false

/-! # Reading a text by its phrases

An answer is safe if a phrase of a safe answer occurs anywhere in its text. Otherwise the leftmost
phrase of a busy answer counts, if the digits of its count are ASCII and make a number of the 32-bit
range; and in every other case the answer is unknown (`ofText_by_phrases`). So the words of Ceph are
read for what they say, whatever stands around them without a phrase: no phrase can begin in what
stands before a busy answer and reach into it, since it would meet its letter `E` in the wrong
place, and none can begin inside of it.
-/

namespace OsdMigration

/-! ## The value of a numeral -/

namespace Text

/-- Decimal digits are read as a number of the 32-bit range exactly if they are its numeral. -/
theorem uint32?_eq_some {ds : List Char} (hne : ds ≠ [])
    (hds : ∀ d ∈ ds, isDecimalDigit d = true) {n : UInt32} :
    uint32? (String.ofList ds) = some n ↔ Denotes ds n.toNat := by
  -- no sign stands in front
  have hnatural : natural? ds = digitsFrom? 0 ds := by
    cases ds with
    | nil => exact absurd rfl hne
    | cons d ds =>
        have hplus : d ≠ '+' := by
          rintro rfl
          exact absurd (hds _ List.mem_cons_self) (by decide)
        unfold natural?
        split
        · rename_i hp
          exact absurd (List.cons.inj hp).1 hplus
        · rfl
  rw [uint32?, String.toList_ofList, hnatural, Option.bind_eq_some_iff]
  constructor
  · rintro ⟨m, hm, h⟩
    split at h
    · rename_i hlt
      obtain rfl := Option.some.inj h
      rw [UInt32.toNat_ofNat_of_lt' hlt]
      exact digitsFrom?_eq_some.1 hm
    · cases h
  · intro h
    refine ⟨n.toNat, digitsFrom?_eq_some.2 h, ?_⟩
    rw [if_pos n.toNat_lt, UInt32.ofNat_toNat]

end Text

namespace Ceph.Removability

/-! ## What a text says -/

/-- The phrase of a safe answer occurs. -/
def SaysSafe (cs : List Char) : Prop := ∃ osd, IsNumber osd ∧ safePhrase osd <:+: cs

/-- The phrase of a busy answer with this count stands behind so many characters. -/
def BusyAt (position : Nat) (count cs : List Char) : Prop :=
  ∃ before osd after, cs = before ++ (busyPhrase osd count ++ after) ∧
    before.length = position ∧ IsNumber osd ∧ IsNumber count

/-- The leftmost phrase of a busy answer has this count. -/
def LeftmostBusy (count cs : List Char) : Prop :=
  ∃ position, BusyAt position count cs ∧ ∀ other n, BusyAt other n cs → position ≤ other

/-- The leftmost phrase of a busy answer tells of so many placement groups. -/
def SaysBusy (groups : UInt32) (cs : List Char) : Prop :=
  ∃ count, LeftmostBusy count cs ∧ Text.Denotes count groups.toNat

theorem busyAt_iff {position : Nat} {count cs : List Char} :
    BusyAt position count cs ↔ ∃ before back, cs = before ++ back ∧ before.length = position ∧
      startsBusy? back = some count := by
  constructor
  · rintro ⟨before, osd, after, rfl, hlen, hosd, hcount⟩
    exact ⟨before, _, rfl, hlen, startsBusy?_eq_some.2 ⟨osd, hosd, hcount, after, rfl⟩⟩
  · rintro ⟨before, back, rfl, hlen, h⟩
    obtain ⟨osd, hosd, hcount, after, rfl⟩ := startsBusy?_eq_some.1 h
    exact ⟨before, osd, after, rfl, hlen, hosd, hcount⟩

/-- The first phrase that is found is the leftmost one. -/
theorem firstBusy_iff {count cs : List Char} : FirstBusy count cs ↔ LeftmostBusy count cs := by
  constructor
  · rintro ⟨before, back, rfl, hback, hfirst⟩
    refine ⟨before.length, busyAt_iff.2 ⟨before, back, rfl, rfl, hback⟩, fun other n hother => ?_⟩
    obtain ⟨front, rest, hcs, rfl, hrest⟩ := busyAt_iff.1 hother
    by_contra hlt
    -- then the other one would begin in what is before the first
    rcases List.append_eq_append_iff.1 hcs with ⟨middle, rfl, _⟩ | ⟨middle, rfl, rfl⟩
    · rw [List.length_append] at hlt
      omega
    · have hne : middle ≠ [] := by
        rintro rfl
        simp at hlt
      rw [hfirst front middle rfl hne] at hrest
      cases hrest
  · rintro ⟨position, hbusy, hleft⟩
    obtain ⟨before, back, rfl, rfl, hback⟩ := busyAt_iff.1 hbusy
    refine ⟨before, back, rfl, hback, ?_⟩
    rintro front rest rfl hne
    by_contra hsome
    obtain ⟨n, hn⟩ := Option.ne_none_iff_exists'.1 hsome
    have hle := hleft front.length n
      (busyAt_iff.2 ⟨front, rest ++ back, List.append_assoc .., rfl, hn⟩)
    have hpos : 0 < rest.length := List.length_pos_iff.2 hne
    rw [List.length_append] at hle
    omega

theorem LeftmostBusy.isNumber {count cs : List Char} (h : LeftmostBusy count cs) :
    IsNumber count := by
  obtain ⟨_, ⟨_, _, _, _, _, _, hcount⟩, _⟩ := h
  exact hcount

/-- What is read of a text, for each of the three answers. -/
structure ReadByPhrases (text : String) : Prop where
  safe_iff : ofText text = .safe ↔ SaysSafe text.toList
  busy_iff : ∀ groups, ofText text = .busy groups ↔
    ¬ SaysSafe text.toList ∧ SaysBusy groups text.toList
  unknown_iff : ofText text = .unknown ↔
    ¬ SaysSafe text.toList ∧ ∀ groups, ¬ SaysBusy groups text.toList

theorem readByPhrases (text : String) : ReadByPhrases text := by
  have hbusy : ∀ groups, ofText text = .busy groups ↔
      ¬ SaysSafe text.toList ∧ SaysBusy groups text.toList := by
    intro groups
    rw [ofText_busy_iff]
    refine and_congr_right fun _ => exists_congr fun count => ?_
    rw [firstBusy_iff]
    refine and_congr_right fun hfirst => ?_
    obtain ⟨hne, hdigits⟩ := hfirst.isNumber
    exact Text.uint32?_eq_some hne hdigits
  refine ⟨ofText_safe_iff, hbusy, ?_⟩
  constructor
  · intro hu
    have hsafe : ¬ SaysSafe text.toList := by
      intro hs
      rw [ofText_safe_iff.2 hs] at hu
      cases hu
    refine ⟨hsafe, fun groups hg => ?_⟩
    rw [(hbusy groups).2 ⟨hsafe, hg⟩] at hu
    cases hu
  · rintro ⟨hsafe, hnone⟩
    cases h : ofText text with
    | safe => exact absurd (ofText_safe_iff.1 h) hsafe
    | busy groups => exact absurd ((hbusy groups).1 h).2 (hnone groups)
    | unknown => rfl

/-! ## What stands around a phrase -/

section

variable {α : Type} {c : α} {p w r : List α}

/-- What does not contain a character does not reach over it. -/
theorem infix_over_of_not_mem (hc : c ∉ p) : p <:+: w ++ c :: r ↔ p <:+: w ∨ p <:+: r := by
  rw [List.infix_append_iff, List.infix_cons_iff]
  constructor
  · rintro (h | (h | h) | ⟨x, y, rfl, hx, hy⟩)
    · exact .inl h
    · -- it would begin with the character
      cases p with
      | nil => exact .inl (List.nil_infix)
      | cons d p =>
          obtain ⟨rfl, _⟩ := List.cons_prefix_cons.1 h
          exact absurd List.mem_cons_self hc
    · exact .inr h
    · cases y with
      | nil => exact .inl (by simpa using hx.isInfix)
      | cons d y =>
          obtain ⟨rfl, _⟩ := List.cons_prefix_cons.1 hy
          exact absurd (List.mem_append_right _ List.mem_cons_self) hc
  · rintro (h | h)
    · exact .inl h
    · exact .inr (.inl (.inr h))

/-- What begins with a character does not begin where this is missing. -/
theorem infix_behind_of_not_mem (hc : c ∉ w) : c :: p <:+: w ++ r ↔ c :: p <:+: r := by
  induction w with
  | nil => rfl
  | cons d w ih =>
      obtain ⟨hd, hw⟩ := not_or.1 (mt List.mem_cons.2 hc)
      rw [List.cons_append, List.infix_cons_iff, ih hw, List.cons_prefix_cons]
      exact or_iff_right fun h => hd h.1

end

/-- A letter does not occur in a number. -/
theorem IsNumber.not_mem {n : List Char} (hn : IsNumber n) {c : Char}
    (hc : Text.isDecimalDigit c = false) : c ∉ n := by
  intro hm
  rw [hn.2 c hm] at hc
  cases hc

/-- A number ends where the next word begins, so what is behind two numbers is compared. -/
theorem number_append_inj {n n' : List Char} {text text' : String} {rest rest' : List Char}
    (hn : IsNumber n) (hn' : IsNumber n') (ht : text.toList.head? = some ' ')
    (ht' : text'.toList.head? = some ' ')
    (h : n ++ (text.toList ++ rest) = n' ++ (text'.toList ++ rest')) :
    text.toList ++ rest = text'.toList ++ rest' := by
  have hleft : number? (n ++ (text.toList ++ rest)) = some (n, text.toList ++ rest) :=
    number?_append hn ht
  have hright : number? (n' ++ (text'.toList ++ rest')) = some (n', text'.toList ++ rest') :=
    number?_append hn' ht'
  rw [h, hright] at hleft
  exact (Prod.mk.inj (Option.some.inj hleft)).2.symm

/-- A phrase of a busy answer from its word `OSD(s)` on, without the first letter of that. -/
def busyEnd (osd groups : List Char) : List Char :=
  "SD(s) ".toList ++ (osd ++ (" have ".toList ++ (groups ++
    " pgs currently mapped to them".toList)))

/-- The letters by which the phrases are told apart: `E`, which only busy answers have, and `O`,
with which safe ones begin. -/
theorem busyPhrase_letters (osd groups : List Char) : busyPhrase osd groups =
    'E' :: ("rror ".toList ++ 'E' :: 'B' :: ("USY: ".toList ++ 'O' :: busyEnd osd groups)) := by
  have herror : "Error EBUSY: OSD(s) ".toList =
      'E' :: ("rror ".toList ++ 'E' :: 'B' :: ("USY: ".toList ++ 'O' :: "SD(s) ".toList)) := by
    decide +kernel
  unfold busyPhrase busyEnd
  rw [herror]
  simp only [List.cons_append, List.append_assoc]

theorem safePhrase_letters (n : List Char) : safePhrase n = 'O' :: ("SD(s) ".toList ++
    (n ++ " are safe to destroy without reducing data durability".toList)) := by
  have hosds : "OSD(s) ".toList = 'O' :: "SD(s) ".toList := by decide +kernel
  unfold safePhrase
  rw [hosds]
  exact List.cons_append

section

variable {n osd groups : List Char}

theorem not_mem_busyEnd (hosd : IsNumber osd) (hgroups : IsNumber groups) {c : Char}
    (hc : Text.isDecimalDigit c = false)
    (hwords : c ∉ "SD(s) ".toList ++ (" have ".toList ++
      " pgs currently mapped to them".toList)) : c ∉ busyEnd osd groups := by
  unfold busyEnd
  simp only [List.mem_append, not_or] at hwords ⊢
  exact ⟨hwords.1, hosd.not_mem hc, hwords.2.1, hgroups.not_mem hc, hwords.2.2⟩

theorem not_mem_safePhrase (hn : IsNumber n) : 'E' ∉ safePhrase n := by
  have hwords : 'E' ∉ "OSD(s) ".toList ++
      " are safe to destroy without reducing data durability".toList := by decide +kernel
  unfold safePhrase
  simp only [List.mem_append, not_or] at hwords ⊢
  exact ⟨hwords.1, hn.not_mem (by decide), hwords.2⟩

/-- A number that is followed by `are` is not the beginning of one that is followed by `have`. -/
theorem not_prefix_busyEnd (hn : IsNumber n) (hosd : IsNumber osd) (after : List Char) :
    ¬ safePhrase n <+: 'O' :: (busyEnd osd groups ++ after) := by
  have hare : " are safe to destroy without reducing data durability".toList =
      ' ' :: 'a' :: "re safe to destroy without reducing data durability".toList := by
    decide +kernel
  have hhave : " have ".toList = ' ' :: 'h' :: "ave ".toList := by decide +kernel
  unfold busyEnd
  rw [safePhrase_letters, List.append_assoc, List.cons_prefix_cons, and_iff_right rfl,
    List.prefix_append_right_inj]
  rintro ⟨back, h⟩
  simp only [List.append_assoc] at h
  have hwords := number_append_inj hn hosd rfl rfl h
  rw [hare, hhave] at hwords
  exact absurd (List.cons.inj (List.cons.inj hwords).2).1 (by decide)

/-- No phrase of a safe answer reaches into a phrase of a busy one, or begins in it. -/
theorem safePhrase_around {before after : List Char} (hn : IsNumber n) (hosd : IsNumber osd)
    (hgroups : IsNumber groups) :
    safePhrase n <:+: before ++ (busyPhrase osd groups ++ after) ↔
      safePhrase n <:+: before ∨ safePhrase n <:+: after := by
  have hfront : 'O' ∉ "rror ".toList ++ 'E' :: 'B' :: "USY: ".toList := by decide +kernel
  have hend : 'O' ∉ busyEnd osd groups :=
    not_mem_busyEnd hosd hgroups (by decide) (by decide +kernel)
  have hbegin : ¬ safePhrase n <+: 'O' :: (busyEnd osd groups ++ after) :=
    not_prefix_busyEnd hn hosd after
  have hphrase : busyPhrase osd groups ++ after = 'E' :: (("rror ".toList ++
      'E' :: 'B' :: "USY: ".toList) ++ 'O' :: (busyEnd osd groups ++ after)) := by
    rw [busyPhrase_letters]
    simp only [List.cons_append, List.append_assoc]
  rw [hphrase, infix_over_of_not_mem (not_mem_safePhrase hn)]
  rw [safePhrase_letters] at hbegin ⊢
  rw [infix_behind_of_not_mem hfront, List.infix_cons_iff, or_iff_right hbegin,
    infix_behind_of_not_mem hend]

/-- The second `E` of a busy answer begins another word than the first one. -/
theorem head_of_busyPhrase_append {part beyond : List Char} (hosd : IsNumber osd)
    (hgroups : IsNumber groups) (hpart : part ≠ [])
    (h : busyPhrase osd groups = part ++ 'E' :: beyond) : beyond.head? = some 'B' := by
  have hfront : 'E' ∉ "rror ".toList := by decide +kernel
  have hmiddle : 'E' ∉ 'B' :: ("USY: ".toList ++ ['O']) := by decide +kernel
  have hend : 'E' ∉ busyEnd osd groups :=
    not_mem_busyEnd hosd hgroups (by decide) (by decide +kernel)
  have hback : 'E' ∉ 'B' :: ("USY: ".toList ++ 'O' :: busyEnd osd groups) := by
    rw [List.append_cons, ← List.cons_append, List.mem_append, not_or]
    exact ⟨hmiddle, hend⟩
  rw [busyPhrase_letters] at h
  cases part with
  | nil => exact absurd rfl hpart
  | cons d part =>
      have hsplit := (List.cons.inj h).2
      rw [← ((List.append_cons_inj_of_notMem hfront hback).1 hsplit).2.2]
      rfl

end

/-- No phrase of a busy answer begins in front of another one and reaches into it. -/
theorem le_of_busyAt {osd groups before after : List Char}
    (hsilent : ∀ position count, ¬ BusyAt position count before) {position : Nat}
    {count : List Char} (h : BusyAt position count (before ++ (busyPhrase osd groups ++ after))) :
    before.length ≤ position := by
  obtain ⟨front, n, back, hcs, rfl, hn, hcount⟩ := h
  by_contra hlt
  have inside : ∀ rest, before ≠ front ++ (busyPhrase n count ++ rest) := fun rest hb =>
    hsilent front.length count ⟨front, n, rest, hb, rfl, hn, hcount⟩
  rcases List.append_eq_append_iff.1 hcs with ⟨middle, rfl, _⟩ | ⟨part, rfl, hback⟩
  · rw [List.length_append] at hlt
    omega
  have hpart : part ≠ [] := by
    rintro rfl
    simp at hlt
  rcases List.append_eq_append_iff.1 hback with ⟨rest, rfl, _⟩ | ⟨beyond, hphrase, hbeyond⟩
  · exact inside rest rfl
  cases beyond with
  | nil =>
      refine inside [] ?_
      rw [hphrase, List.append_nil, List.append_nil]
  | cons e beyond =>
      -- a part of the phrase is in front, and what is left of it begins the other one
      have herror : "Error EBUSY: OSD(s) ".toList = 'E' :: 'r' :: "ror EBUSY: OSD(s) ".toList := by
        decide +kernel
      unfold busyPhrase at hbeyond
      rw [herror] at hbeyond
      obtain ⟨rfl, hrest⟩ := List.cons.inj hbeyond
      have hhead := head_of_busyPhrase_append hn hcount hpart hphrase
      cases beyond with
      | nil => cases hhead
      | cons b beyond =>
          obtain rfl : b = 'B' := Option.some.inj hhead
          exact absurd (List.cons.inj hrest).1 (by decide)

/-! ## The answers of Ceph -/

/-- What Ceph writes of an OSD that can go. -/
def safeAnswer (osd : UInt32) : String :=
  "OSD(s) " ++ toString osd ++ " are safe to destroy without reducing data durability"

/-- What Ceph writes of an OSD that still has so many placement groups. -/
def busyAnswer (osd groups : UInt32) : String :=
  "Error EBUSY: OSD(s) " ++ toString osd ++ " have " ++ toString groups
    ++ " pgs currently mapped to them"

theorem toList_safeAnswer (osd : UInt32) :
    (safeAnswer osd).toList = safePhrase (toString osd).toList := by
  unfold safeAnswer safePhrase
  generalize "OSD(s) " = before
  generalize " are safe to destroy without reducing data durability" = after
  simp

theorem toList_busyAnswer (osd groups : UInt32) :
    (busyAnswer osd groups).toList = busyPhrase (toString osd).toList (toString groups).toList := by
  unfold busyAnswer busyPhrase
  generalize "Error EBUSY: OSD(s) " = before
  generalize " have " = between
  generalize " pgs currently mapped to them" = after
  simp

/-- A text in which neither phrase occurs. -/
structure Silent (cs : List Char) : Prop where
  notSafe : ¬ SaysSafe cs
  notBusy : ∀ position count, ¬ BusyAt position count cs

theorem silent_iff {cs : List Char} :
    Silent cs ↔ mentionsSafe cs = false ∧ firstBusy? cs = none := by
  have hsafe : ¬ SaysSafe cs ↔ mentionsSafe cs = false := by
    rw [SaysSafe, ← mentionsSafe_iff, Bool.not_eq_true]
  have hbusy : (∀ position count, ¬ BusyAt position count cs) ↔ firstBusy? cs = none := by
    constructor
    · intro hnone
      by_contra hsome
      obtain ⟨count, hcount⟩ := Option.ne_none_iff_exists'.1 hsome
      obtain ⟨position, hat, _⟩ := firstBusy_iff.1 (firstBusy?_eq_some.1 hcount)
      exact hnone position count hat
    · intro hnone position count hat
      -- where there is a phrase there is a leftmost one
      classical
      have hex : ∃ i n, BusyAt i n cs := ⟨position, count, hat⟩
      obtain ⟨n, hn⟩ := Nat.find_spec hex
      have hfirst : LeftmostBusy n cs :=
        ⟨Nat.find hex, hn, fun other k hother => Nat.find_min' hex ⟨k, hother⟩⟩
      rw [firstBusy?_eq_some.2 (firstBusy_iff.2 hfirst)] at hnone
      cases hnone
  rw [← hsafe, ← hbusy]
  exact ⟨fun h => ⟨h.notSafe, h.notBusy⟩, fun h => ⟨h.1, h.2⟩⟩

instance (cs : List Char) : Decidable (Silent cs) := decidable_of_iff _ silent_iff.symm

theorem denotes_toString (n : UInt32) : Text.Denotes (toString n).toList n.toNat := by
  obtain ⟨hne, hdigits⟩ := isNumber_toString n
  refine (Text.uint32?_eq_some hne hdigits).1 ?_
  rw [String.ofList_toList, Text.uint32?_toString]

/-- In silent surroundings a busy answer is the leftmost one, and no answer is safe. -/
theorem saysBusy_around (osd groups : UInt32) {before after : List Char} (hbefore : Silent before)
    (hafter : Silent after) :
    ¬ SaysSafe (before ++ ((busyAnswer osd groups).toList ++ after)) ∧
      SaysBusy groups (before ++ ((busyAnswer osd groups).toList ++ after)) := by
  have hosd := isNumber_toString osd
  have hgroups := isNumber_toString groups
  rw [toList_busyAnswer]
  constructor
  · rintro ⟨n, hn, hinfix⟩
    rcases (safePhrase_around hn hosd hgroups).1 hinfix with h | h
    · exact hbefore.notSafe ⟨n, hn, h⟩
    · exact hafter.notSafe ⟨n, hn, h⟩
  · refine ⟨_, ⟨before.length, ⟨before, _, after, rfl, rfl, hosd, hgroups⟩, ?_⟩,
      denotes_toString groups⟩
    exact fun other n hother => le_of_busyAt hbefore.notBusy hother

/-- A text is read as what its phrases say: every text by the phrase that occurs in it, and so the
answers of Ceph as what they say in any surroundings without a phrase. -/
theorem ofText_by_phrases :
    (∀ text, ReadByPhrases text) ∧
      ∀ (osd groups : UInt32) (before after : String), Silent before.toList → Silent after.toList →
        ofText (before ++ busyAnswer osd groups ++ after) = .busy groups ∧
          ofText (before ++ safeAnswer osd ++ after) = .safe := by
  refine ⟨readByPhrases, fun osd groups before after hbefore hafter => ⟨?_, ?_⟩⟩
  · have hsays := saysBusy_around osd groups hbefore hafter
    refine ((readByPhrases _).busy_iff groups).2 ?_
    rwa [String.toList_append, String.toList_append, List.append_assoc]
  · refine (readByPhrases _).safe_iff.2 ⟨_, isNumber_toString osd, ?_⟩
    rw [String.toList_append, String.toList_append, toList_safeAnswer]
    exact List.infix_append ..

/-- Ceph's words are read between what a monitor puts around them. -/
theorem busyAnswer_read_in_log :
    Silent "mon.a: ".toList ∧ Silent ". Retry later".toList ∧
      ofText ("mon.a: " ++ busyAnswer 6 49 ++ ". Retry later") = .busy 49 :=
  have hbefore : Silent "mon.a: ".toList := by decide +kernel
  have hafter : Silent ". Retry later".toList := by decide +kernel
  ⟨hbefore, hafter, (ofText_by_phrases.2 6 49 _ _ hbefore hafter).1⟩

end Ceph.Removability

end OsdMigration
