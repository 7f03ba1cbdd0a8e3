import OsdMigration.Ceph.Removability

set_option autoImplicit false

/-! # The phrases of an answer

What is read from an answer about an OSD is said here in terms of the phrases that occur in its
text: it is safe exactly if the phrase of a safe answer occurs for some number (`ofText_safe_iff`),
and busy exactly if no such phrase occurs and the first phrase of a busy answer has a count in range
(`ofText_busy_iff`). Which number stands for the OSD in a phrase makes no difference.
-/

namespace OsdMigration.Ceph.Removability

/-- A number as the phrases have it: a run of decimal digits. -/
def IsNumber (n : List Char) : Prop := n ≠ [] ∧ ∀ d ∈ n, Text.isDecimalDigit d = true

/-- The number of an OSD is written in ASCII digits. -/
theorem isNumber_toString (osd : UInt32) : IsNumber (toString osd).toList := by
  have h : (toString osd).toList = Nat.toDigits 10 osd.toNat := Nat.toList_repr
  rw [h]
  refine ⟨Nat.toDigits_ne_nil, fun d hd => ?_⟩
  have hdigit := Nat.isDigit_of_mem_toDigits (by omega) (by omega) hd
  obtain ⟨hlow, hhigh⟩ := Char.isDigit_iff_toNat.1 hdigit
  have hlow : ¬ d.toNat < 0x30 := Nat.not_lt.2 hlow
  have hhigh : d.toNat < 0x3a := Nat.lt_succ_of_le hhigh
  simp [Text.isDecimalDigit, Text.decimalDigits, Text.CodePointSet.contains,
    Text.CodePointSet.parity, hlow, hhigh]

/-- The phrase that says of an OSD that it is safe to destroy. -/
def safePhrase (osd : List Char) : List Char :=
  "OSD(s) ".toList ++ (osd ++ " are safe to destroy without reducing data durability".toList)

/-- The phrase that says how many placement groups an OSD still has. -/
def busyPhrase (osd groups : List Char) : List Char :=
  "Error EBUSY: OSD(s) ".toList ++ (osd ++ (" have ".toList ++ (groups ++
    " pgs currently mapped to them".toList)))

/-! ## The characters begin with a phrase -/

theorem skip?_eq_some {text : String} {cs rest : List Char} :
    skip? text cs = some rest ↔ cs = text.toList ++ rest := by
  unfold skip?
  constructor
  · intro h
    split at h
    · rename_i hp
      obtain ⟨back, rfl⟩ := List.isPrefixOf_iff_prefix.1 hp
      cases h
      simp [← String.length_toList]
    · cases h
  · rintro rfl
    simp [← String.length_toList]

/-- A number is read to its end: what follows it does not begin with a digit. -/
theorem number?_eq_some {cs n rest : List Char} :
    number? cs = some (n, rest) ↔
      cs = n ++ rest ∧ IsNumber n ∧ ∀ c ∈ rest.head?, Text.isDecimalDigit c = false := by
  -- the number is the longest run of digits, so what follows begins with none
  have hsplit := List.takeWhile_append_dropWhile (p := Text.isDecimalDigit) (l := cs)
  constructor
  · intro h
    have hn : n = cs.takeWhile Text.isDecimalDigit ∧ rest = cs.dropWhile Text.isDecimalDigit ∧
        n ≠ [] := by
      unfold number? at h
      split at h
      · cases h
      · rename_i d ds hd
        cases h
        exact ⟨hd.symm, rfl, nofun⟩
    obtain ⟨rfl, rfl, hne⟩ := hn
    refine ⟨hsplit.symm, ⟨hne, List.all_eq_true.1 List.all_takeWhile⟩, fun c hc => ?_⟩
    have := List.head?_dropWhile_not Text.isDecimalDigit cs
    rw [Option.mem_def.1 hc] at this
    simpa using this
  · rintro ⟨rfl, ⟨hne, hn⟩, hrest⟩
    have ht : (n ++ rest).takeWhile Text.isDecimalDigit = n := by
      rw [List.takeWhile_append_of_pos hn]
      cases rest with
      | nil => simp
      | cons c cs => simp [hrest c rfl]
    have hd : (n ++ rest).dropWhile Text.isDecimalDigit = rest := by
      rw [List.dropWhile_append_of_pos hn]
      cases rest with
      | nil => rfl
      | cons c cs => simp [hrest c rfl]
    unfold number?
    rw [ht, hd]
    cases n with
    | nil => exact absurd rfl hne
    | cons d ds => rfl

/-- A blank is not a digit, so a number ends before a text that begins with one. -/
theorem number?_append {n rest : List Char} {text : String} (hn : IsNumber n)
    (ht : text.toList.head? = some ' ') :
    number? (n ++ (text.toList ++ rest)) = some (n, text.toList ++ rest) := by
  refine number?_eq_some.2 ⟨rfl, hn, fun c hc => ?_⟩
  rw [List.head?_append, ht] at hc
  obtain rfl : ' ' = c := Option.some.inj hc
  decide

theorem startsSafe_iff {cs : List Char} :
    startsSafe cs = true ↔ ∃ osd, IsNumber osd ∧ safePhrase osd <+: cs := by
  -- the texts must not be evaluated: all that matters is that a number ends before the second
  have hsafe : (" are safe to destroy without reducing data durability").toList.head? = some ' ' :=
    rfl
  unfold startsSafe safePhrase
  generalize "OSD(s) " = before
  generalize " are safe to destroy without reducing data durability" = after at hsafe ⊢
  rw [Option.isSome_iff_exists]
  constructor
  · rintro ⟨back, h⟩
    obtain ⟨cs₁, h₁, h⟩ := Option.bind_eq_some_iff.1 h
    obtain ⟨⟨osd, cs₂⟩, h₂, h₃⟩ := Option.bind_eq_some_iff.1 h
    obtain rfl := skip?_eq_some.1 h₁
    obtain ⟨rfl, hosd, _⟩ := number?_eq_some.1 h₂
    obtain rfl := skip?_eq_some.1 h₃
    exact ⟨osd, hosd, back, by simp⟩
  · rintro ⟨osd, hosd, back, rfl⟩
    have hcs : before.toList ++ (osd ++ after.toList) ++ back =
        before.toList ++ (osd ++ (after.toList ++ back)) := by simp
    rw [hcs]
    refine ⟨back, Option.bind_eq_some_iff.2 ⟨_, skip?_eq_some.2 rfl, ?_⟩⟩
    exact Option.bind_eq_some_iff.2 ⟨_, number?_append hosd hsafe, skip?_eq_some.2 rfl⟩

theorem startsBusy?_eq_some {cs groups : List Char} :
    startsBusy? cs = some groups ↔
      ∃ osd, IsNumber osd ∧ IsNumber groups ∧ busyPhrase osd groups <+: cs := by
  have hhave : (" have ").toList.head? = some ' ' := rfl
  have hpgs : (" pgs currently mapped to them").toList.head? = some ' ' := rfl
  unfold startsBusy? busyPhrase
  -- of the texts only this matters: a number ends where one of them begins
  generalize "Error EBUSY: OSD(s) " = before
  generalize " have " = between at hhave ⊢
  generalize " pgs currently mapped to them" = after at hpgs ⊢
  constructor
  · intro h
    obtain ⟨cs₁, h₁, h⟩ := Option.bind_eq_some_iff.1 h
    obtain ⟨⟨osd, cs₂⟩, h₂, h⟩ := Option.bind_eq_some_iff.1 h
    obtain ⟨cs₃, h₃, h⟩ := Option.bind_eq_some_iff.1 h
    obtain ⟨⟨n, cs₄⟩, h₄, h⟩ := Option.bind_eq_some_iff.1 h
    obtain ⟨back, h₅, h⟩ := Option.bind_eq_some_iff.1 h
    obtain rfl : n = groups := Option.some.inj h
    obtain rfl := skip?_eq_some.1 h₁
    obtain ⟨rfl, hosd, _⟩ := number?_eq_some.1 h₂
    obtain rfl := skip?_eq_some.1 h₃
    obtain ⟨rfl, hn, _⟩ := number?_eq_some.1 h₄
    obtain rfl := skip?_eq_some.1 h₅
    exact ⟨osd, hosd, hn, back, by simp⟩
  · rintro ⟨osd, hosd, hn, back, rfl⟩
    have hcs : before.toList ++ (osd ++ (between.toList ++ (groups ++ after.toList))) ++ back =
        before.toList ++ (osd ++ (between.toList ++ (groups ++ (after.toList ++ back)))) := by
      simp
    rw [hcs]
    refine Option.bind_eq_some_iff.2 ⟨_, skip?_eq_some.2 rfl, ?_⟩
    refine Option.bind_eq_some_iff.2 ⟨_, number?_append hosd hhave, ?_⟩
    refine Option.bind_eq_some_iff.2 ⟨_, skip?_eq_some.2 rfl, ?_⟩
    refine Option.bind_eq_some_iff.2 ⟨_, number?_append hn hpgs, ?_⟩
    exact Option.bind_eq_some_iff.2 ⟨_, skip?_eq_some.2 rfl, rfl⟩

/-! ## A phrase occurs -/

/-- The phrase of a safe answer occurs exactly if it does so for some number. -/
theorem mentionsSafe_iff {cs : List Char} :
    mentionsSafe cs = true ↔ ∃ osd, IsNumber osd ∧ safePhrase osd <:+: cs := by
  induction cs with
  | nil =>
      rw [mentionsSafe, startsSafe_iff]
      simp only [List.prefix_nil, List.infix_nil]
  | cons c cs ih =>
      rw [mentionsSafe, Bool.or_eq_true, ih, startsSafe_iff]
      constructor
      · rintro (⟨osd, hn, h⟩ | ⟨osd, hn, h⟩)
        · exact ⟨osd, hn, h.isInfix⟩
        · exact ⟨osd, hn, List.infix_cons h⟩
      · rintro ⟨osd, hn, h⟩
        rcases List.infix_cons_iff.1 h with h | h
        · exact .inl ⟨osd, hn, h⟩
        · exact .inr ⟨osd, hn, h⟩

/-- The first phrase of a busy answer, with what is before it and from it on. -/
def FirstBusy (groups cs : List Char) : Prop :=
  ∃ before back, cs = before ++ back ∧ startsBusy? back = some groups ∧
    ∀ front rest, before = front ++ rest → rest ≠ [] → startsBusy? (rest ++ back) = none

/-- Where the characters begin with a phrase, that one is the first. -/
theorem firstBusy_of_starts {count groups cs : List Char} (h : startsBusy? cs = some count) :
    FirstBusy groups cs ↔ count = groups := by
  constructor
  · rintro ⟨before, back, rfl, hback, hfirst⟩
    cases before with
    | nil =>
        rw [List.nil_append, hback] at h
        exact (Option.some.inj h).symm
    | cons d before =>
        -- the whole begins with a phrase, so nothing is before the first one
        have hnone := hfirst [] (d :: before) rfl nofun
        rw [h] at hnone
        cases hnone
  · rintro rfl
    refine ⟨[], cs, rfl, h, fun front rest hf hr => absurd ?_ hr⟩
    exact (List.append_eq_nil_iff.1 hf.symm).2

/-- Where they do not, the first phrase is the first one behind the first character. -/
theorem firstBusy_cons {c : Char} {groups cs : List Char} (h : startsBusy? (c :: cs) = none) :
    FirstBusy groups (c :: cs) ↔ FirstBusy groups cs := by
  constructor
  · rintro ⟨before, back, hcs, hback, hfirst⟩
    cases before with
    | nil =>
        rw [List.nil_append] at hcs
        rw [← hcs, h] at hback
        cases hback
    | cons d before =>
        refine ⟨before, back, (List.cons.inj hcs).2, hback, fun front rest hf hr => ?_⟩
        exact hfirst (d :: front) rest (by rw [hf, List.cons_append]) hr
  · rintro ⟨before, back, rfl, hback, hfirst⟩
    refine ⟨c :: before, back, rfl, hback, fun front rest hf hr => ?_⟩
    cases front with
    | nil =>
        rw [List.nil_append] at hf
        rw [← hf]
        exact h
    | cons d front => exact hfirst front rest (List.cons.inj hf).2 hr

theorem firstBusy?_eq_some {cs groups : List Char} :
    firstBusy? cs = some groups ↔ FirstBusy groups cs := by
  induction cs with
  | nil =>
      -- no phrase is empty
      have hnone : startsBusy? [] = none := rfl
      rw [firstBusy?, hnone]
      refine ⟨nofun, ?_⟩
      rintro ⟨before, back, hcs, h, _⟩
      rw [(List.append_eq_nil_iff.1 hcs.symm).2, hnone] at h
      exact h
  | cons c cs ih =>
      rw [firstBusy?]
      cases hb : startsBusy? (c :: cs) with
      | some count => simp only [Option.some.injEq, firstBusy_of_starts hb]
      | none => exact ih.trans (firstBusy_cons hb).symm

/-- The first phrase of a busy answer is one that occurs. -/
theorem FirstBusy.occurs {groups cs : List Char} (h : FirstBusy groups cs) :
    ∃ osd, IsNumber osd ∧ busyPhrase osd groups <:+: cs := by
  obtain ⟨before, back, rfl, h, _⟩ := h
  obtain ⟨osd, hn, _, h⟩ := startsBusy?_eq_some.1 h
  exact ⟨osd, hn, h.isInfix.trans (List.suffix_append ..).isInfix⟩

/-! ## What is read of a text -/

/-- A text is read as a safe answer exactly if it calls some OSD safe to destroy. -/
theorem ofText_safe_iff {text : String} :
    ofText text = .safe ↔ ∃ osd, IsNumber osd ∧ safePhrase osd <:+: text.toList := by
  rw [← mentionsSafe_iff, ofText]
  constructor
  · intro h
    split at h
    · assumption
    · split at h <;> cases h
  · intro h
    rw [if_pos h]

/-- A text is read as a busy answer exactly if it calls no OSD safe to destroy and the first OSD
that it calls busy has a count in range. -/
theorem ofText_busy_iff {text : String} {groups : UInt32} :
    ofText text = .busy groups ↔
      (¬ ∃ osd, IsNumber osd ∧ safePhrase osd <:+: text.toList) ∧
        ∃ count, FirstBusy count text.toList ∧
          Text.uint32? (String.ofList count) = some groups := by
  rw [← mentionsSafe_iff]
  unfold ofText
  constructor
  · intro h
    split at h
    · cases h
    · rename_i hs
      split at h
      · rename_i g hg
        cases h
        obtain ⟨count, hf, hc⟩ := Option.bind_eq_some_iff.1 hg
        exact ⟨hs, count, firstBusy?_eq_some.1 hf, hc⟩
      · cases h
  · rintro ⟨hs, count, hf, hc⟩
    rw [if_neg hs, firstBusy?_eq_some.2 hf, Option.bind_some, hc]

end OsdMigration.Ceph.Removability
