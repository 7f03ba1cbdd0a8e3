import Mathlib.Data.List.Basic
import OsdMigration.Proofs.Json.Numeral
import OsdMigration.Proofs.Number.Shortest

set_option autoImplicit false

/-! # Double precision numbers as JSON text

The text of a double precision number is a numeral, whichever of its four layouts it has
(`numeral?_text`). What is read from it need not be the same number, as the reader rounds more than
once: `Number.reread` is what becomes of a number that is written and read again.
-/

namespace OsdMigration.Json

open OsdMigration.Number (Binary64)

namespace Token

/-! ## The parts of a numeral -/

/-- A numeral is taken apart. -/
theorem magnitude?_parts (negative : Bool) {whole after rest exponent : List Char}
    {frac : Option (List Char)} {exp : Option Int}
    (hw : run? (whole ++ after) = some (whole, after))
    (hzero : whole.head? = some '0' → whole.length = 1)
    (hf : fraction? after = some (frac, exponent)) (he : exponent? exponent = some (exp, rest)) :
    magnitude? negative (whole ++ after) =
      some (Number.ofNumeral negative whole frac exp, rest) := by
  have hzero' : ¬ (whole.head? = some '0' ∧ whole.length ≠ 1) := fun h => h.2 (hzero h.1)
  simp only [magnitude?, hw, hf, he, Option.bind_eq_bind, Option.bind_some, if_neg hzero',
    Option.pure_def]

/-- A fraction. -/
theorem fraction?_point {ds rest : List Char} (hne : ds ≠ []) (hds : ∀ c ∈ ds, isDigit c = true)
    (hstop : ∀ c ∈ rest.head?, isDigit c = false) :
    fraction? ('.' :: (ds ++ rest)) = some (some ds, rest) := by
  rw [fraction?, run?_append hne hds hstop]
  rfl

/-- A mark and an exponent. -/
theorem exponent?_toString (i : Int) {rest : List Char} (hr : EndsNumeral rest) :
    exponent? ((if i < 0 then "e" else "e+").toList ++ ((toString i).toList ++ rest)) =
      some (some i, rest) := by
  cases i with
  | ofNat n =>
      have hsign : ¬ Int.ofNat n < 0 := by simp
      rw [if_neg hsign, Int.ofNat_eq_natCast, toList_toString_ofNat]
      change exponent? ('e' :: '+' :: (Nat.toDigits 10 n ++ rest)) = _
      simp [exponent?, exponentSign, run?_toDigits n hr, digitsFrom?_toDigits]
  | negSucc n =>
      rw [if_pos (Int.negSucc_lt_zero n), toList_toString_negSucc]
      change exponent? ('e' :: '-' :: (Nat.toDigits 10 (n + 1) ++ rest)) = _
      simp [exponent?, exponentSign, run?_toDigits (n + 1) hr, digitsFrom?_toDigits]
      omega

/-! ## The layouts of a number -/

/-- The text is a numeral without its sign, and this is its number, whatever stands behind it that
does not go on with it. -/
def Spells (negative : Bool) (cs : List Char) (n : Number) : Prop :=
  ∀ rest, EndsNumeral rest → magnitude? negative (cs ++ rest) = some (n, rest)

/-- A numeral with a point. -/
theorem spells_point (negative : Bool) {whole frac : List Char} (hw : whole ≠ [])
    (hzero : whole.head? = some '0' → whole.length = 1) (hf : frac ≠ [])
    (hds : ∀ c ∈ whole ++ frac, isDigit c = true) :
    Spells negative (whole ++ '.' :: frac) (.ofNumeral negative whole (some frac) none) := by
  intro rest hr
  have hwd : ∀ c ∈ whole, isDigit c = true := fun c hc => hds c (List.mem_append_left _ hc)
  have hfd : ∀ c ∈ frac, isDigit c = true := fun c hc => hds c (List.mem_append_right _ hc)
  have hfrac := fraction?_point hf hfd fun c hc => (hr c hc).1
  have hstop : ∀ c ∈ ('.' :: (frac ++ rest)).head?, isDigit c = false := by
    rintro _ ⟨⟩
    rfl
  rw [List.append_assoc]
  exact magnitude?_parts negative (run?_append hw hwd hstop) hzero hfrac (exponent?_of_ends hr)

/-- A numeral with an exponent, and with a point if there is more than one digit. -/
theorem spells_exponent (negative : Bool) {d : Char} {tail : List Char} (i : Int)
    (hds : ∀ c ∈ d :: tail, isDigit c = true) :
    Spells negative (d :: (if tail = [] then [] else '.' :: tail) ++
        ((if i < 0 then "e" else "e+").toList ++ (toString i).toList))
      (.ofNumeral negative [d] (if tail = [] then none else some tail) (some i)) := by
  intro rest hr
  have hexponent := exponent?_toString i hr
  have hmark : ∃ cs, (if i < 0 then "e" else "e+").toList ++ ((toString i).toList ++ rest) =
      'e' :: cs := by
    split <;> exact ⟨_, rfl⟩
  rw [List.append_assoc, List.append_assoc]
  generalize (if i < 0 then "e" else "e+").toList ++ ((toString i).toList ++ rest) = after at *
  obtain ⟨cs, rfl⟩ := hmark
  have hd : ∀ c ∈ [d], isDigit c = true := by simpa using hds d List.mem_cons_self
  have hzero : [d].head? = some '0' → [d].length = 1 := fun _ => rfl
  by_cases htail : tail = []
  · subst htail
    have hstop : ∀ c ∈ ('e' :: cs).head?, isDigit c = false := by
      rintro _ ⟨⟩
      rfl
    exact magnitude?_parts negative (run?_append (List.cons_ne_nil d []) hd hstop) hzero rfl
      hexponent
  · rw [if_neg htail, if_neg htail]
    have htaild : ∀ c ∈ tail, isDigit c = true := fun c hc => hds c (List.mem_cons_of_mem d hc)
    have hfrac : fraction? ('.' :: (tail ++ 'e' :: cs)) = some (some tail, 'e' :: cs) := by
      refine fraction?_point htail htaild ?_
      rintro _ ⟨⟩
      rfl
    have hstop : ∀ c ∈ ('.' :: (tail ++ 'e' :: cs)).head?, isDigit c = false := by
      rintro _ ⟨⟩
      rfl
    exact magnitude?_parts negative (run?_append (List.cons_ne_nil d []) hd hstop) hzero hfrac
      hexponent

/-- The digits of a number other than zero, with a point wherever it falls, are a numeral. -/
theorem exists_spells_layout (negative : Bool) {n : Nat} (hn : 0 < n) (k : Int) :
    ∃ m, Spells negative (Binary64.layout n k).toList m := by
  have hdigits : ∀ c ∈ Nat.toDigits 10 n, isDigit c = true := fun _ => isDigit_of_mem_toDigits
  have hne : Nat.toDigits 10 n ≠ [] := Nat.toDigits_ne_nil
  have hzero := head?_toDigits (Nat.ne_of_gt hn)
  unfold Binary64.layout
  extract_lets digits point tail
  change ∀ c ∈ digits, isDigit c = true at hdigits
  change digits ≠ [] at hne
  change digits.head? ≠ some '0' at hzero
  have hall : ∀ j, ∀ c ∈ List.replicate j '0', isDigit c = true := fun j c hc =>
    (List.mem_replicate.1 hc).2 ▸ rfl
  split
  · -- with zeros behind the digits, and one more behind the point
    have hhead : (digits ++ List.replicate k.toNat '0').head? = digits.head? :=
      List.head?_append_of_ne_nil _ hne
    have hds : ∀ c ∈ digits ++ List.replicate k.toNat '0' ++ ['0'], isDigit c = true := by
      intro c hc
      rcases List.mem_append.1 hc with hc | hc
      · exact (List.mem_append.1 hc).elim (hdigits c) (hall _ c)
      · exact hall 1 c hc
    rw [String.toList_ofList]
    exact ⟨_, spells_point negative (List.append_ne_nil_of_left_ne_nil hne _)
      (fun h => absurd (hhead.symm.trans h) hzero) (List.cons_ne_nil '0' []) hds⟩
  · split
    · -- among the digits
      have hhead : (digits.take point.toNat).head? = digits.head? := by
        rw [List.head?_take, if_neg (by omega)]
      have htake : digits.take point.toNat ≠ [] := fun h =>
        (List.take_eq_nil_iff.1 h).elim (by omega) hne
      have hdrop : digits.drop point.toNat ≠ [] := fun h =>
        absurd (List.drop_eq_nil_iff.1 h) (by omega)
      have hds : ∀ c ∈ digits.take point.toNat ++ digits.drop point.toNat, isDigit c = true := by
        rwa [List.take_append_drop]
      rw [String.toList_ofList, List.append_assoc]
      exact ⟨_, spells_point negative htake (fun h => absurd (hhead.symm.trans h) hzero) hdrop hds⟩
    · split
      · -- with zeros between the point and the digits
        have hds : ∀ c ∈ ['0'] ++ (List.replicate (-point).toNat '0' ++ digits),
            isDigit c = true := by
          intro c hc
          rcases List.mem_append.1 hc with hc | hc
          · exact hall 1 c hc
          · exact (List.mem_append.1 hc).elim (hall _ c) (hdigits c)
        rw [String.toList_ofList, List.append_assoc ['0', '.']]
        exact ⟨_, spells_point negative (List.cons_ne_nil '0' []) (fun _ => rfl)
          (List.append_ne_nil_of_right_ne_nil (List.replicate (-point).toNat '0') hne) hds⟩
      · -- with an exponent
        obtain ⟨d, ds, hd⟩ : ∃ d ds, digits = d :: ds := List.exists_cons_of_ne_nil hne
        have hmark : (if point - 1 < 0 then "e" else "e+") = if point < 1 then "e" else "e+" :=
          if_congr (by omega) rfl rfl
        have htext := spells_exponent negative (point - 1) (hd ▸ hdigits)
        rw [hmark] at htext
        rw [String.toList_append, String.toList_append, String.toList_ofList, List.append_assoc]
        change ∃ m, Spells negative (digits.take 1 ++ (if digits.drop 1 = [] then [] else
          '.' :: digits.drop 1) ++ _) m
        rw [hd]
        exact ⟨_, htext⟩

end Token

/-! ## The text of a number -/

/-- What is read from the text of a number. -/
def Number.reread : Number → Number
  | .real x => ((Token.numeral? x.text.toList).map Prod.fst).getD .huge
  | n => n

namespace Token

theorem numeral?_of_magnitude? {cs : List Char} {r : Number × List Char}
    (h : magnitude? false cs = some r) : numeral? cs = some r := by
  rw [numeral?]
  · exact h
  · rintro after rfl
    cases h

/-- The magnitude of a number is a numeral, -/
theorem exists_spells_text (x : Binary64) : ∃ magnitude : String,
    x.text = (if x.negative then "-" else "") ++ magnitude ∧
      ∃ n, Spells x.negative magnitude.toList n := by
  refine ⟨_, rfl, ?_⟩
  split
  · have hds : ∀ c ∈ ['0'] ++ ['0'], isDigit c = true := by
      intro c hc
      obtain rfl : c = '0' := by simpa using hc
      rfl
    exact ⟨_, spells_point x.negative (List.cons_ne_nil '0' []) (fun _ => rfl)
      (List.cons_ne_nil '0' []) hds⟩
  · exact exists_spells_layout x.negative (Binary64.shortest_pos (Nat.pos_of_ne_zero ‹_›)) _

/-- and so is its text. -/
theorem numeral?_text (x : Binary64) {rest : List Char} (hr : EndsNumeral rest) :
    numeral? (x.text.toList ++ rest) = some (Number.reread (.real x), rest) := by
  obtain ⟨magnitude, htext, n, hspells⟩ := exists_spells_text x
  have hread : ∀ rest, EndsNumeral rest →
      numeral? (x.text.toList ++ rest) = some (n, rest) := by
    intro rest hr
    rw [htext, String.toList_append, List.append_assoc]
    have hmagnitude := hspells rest hr
    cases hsign : x.negative with
    | false =>
        rw [hsign] at hmagnitude
        exact numeral?_of_magnitude? hmagnitude
    | true =>
        rw [hsign] at hmagnitude
        exact hmagnitude
  have hreread : Number.reread (.real x) = n := by
    have halone := hread [] nofun
    rw [List.append_nil] at halone
    rw [Number.reread, halone]
    rfl
  rw [hreread]
  exact hread rest hr

end Token

end OsdMigration.Json
