import OsdMigration.Json.Token
import OsdMigration.Proofs.Numeral

set_option autoImplicit false

/-! # Whole numbers as JSON text

A whole number of the 64-bit range is read back from its numeral, whatever stands behind it that
does not go on with the numeral (`numeral?_toString`).
-/

namespace OsdMigration

namespace Json.Token

/-- No numeral of another number begins with a zero. -/
theorem head?_toDigits {n : Nat} (hn : n ≠ 0) : (Nat.toDigits 10 n).head? ≠ some '0' := by
  induction n using Nat.strongRecOn with
  | ind n ih =>
      by_cases hlt : n < 10
      · rw [Nat.toDigits_of_lt_base hlt]
        have : ∀ m < 10, m ≠ 0 → [Nat.digitChar m].head? ≠ some '0' := by decide
        exact this n hlt hn
      · rw [Nat.toDigits_of_base_le (by omega) (by omega), List.head?_append]
        have hfirst := ih (n / 10) (by omega) (by omega)
        cases h : Nat.toDigits 10 (n / 10) with
        | nil => exact absurd h Nat.toDigits_ne_nil
        | cons d ds =>
            rw [h] at hfirst
            exact hfirst

/-- What can stand behind a numeral without being taken for a part of it. -/
def EndsNumeral (rest : List Char) : Prop :=
  ∀ c ∈ rest.head?, isDigit c = false ∧ c ≠ '.' ∧ c ≠ 'e' ∧ c ≠ 'E'

theorem isDigit_of_mem_toDigits {n : Nat} {c : Char} (h : c ∈ Nat.toDigits 10 n) :
    isDigit c = true :=
  Nat.isDigit_of_mem_toDigits (by omega) (by omega) h

/-- Digits are taken as one run. -/
theorem run?_append {ds rest : List Char} (hne : ds ≠ []) (hds : ∀ c ∈ ds, isDigit c = true)
    (hstop : ∀ c ∈ rest.head?, isDigit c = false) : run? (ds ++ rest) = some (ds, rest) := by
  have hrest : rest.takeWhile isDigit = [] ∧ rest.dropWhile isDigit = rest := by
    cases rest with
    | nil => exact ⟨rfl, rfl⟩
    | cons c rest => simp [hstop c rfl]
  have htake : (ds ++ rest).takeWhile isDigit = ds := by
    rw [List.takeWhile_append_of_pos hds, hrest.1, List.append_nil]
  have hdrop : (ds ++ rest).dropWhile isDigit = rest := by
    rw [List.dropWhile_append_of_pos hds, hrest.2]
  unfold run?
  rw [htake, hdrop]
  cases ds with
  | nil => exact absurd rfl hne
  | cons d ds => rfl

theorem run?_toDigits (n : Nat) {rest : List Char} (hr : EndsNumeral rest) :
    run? (Nat.toDigits 10 n ++ rest) = some (Nat.toDigits 10 n, rest) :=
  run?_append Nat.toDigits_ne_nil (fun _ => isDigit_of_mem_toDigits) fun c hc => (hr c hc).1

theorem fraction?_of_ends {rest : List Char} (hr : EndsNumeral rest) :
    fraction? rest = some (none, rest) := by
  unfold fraction?
  split
  · exact absurd rfl (hr '.' rfl).2.1
  · rfl

theorem exponent?_of_ends {rest : List Char} (hr : EndsNumeral rest) :
    exponent? rest = some (none, rest) := by
  unfold exponent?
  split
  · rfl
  · rename_i c rest
    obtain ⟨_, _, hsmall, hcapital⟩ := hr c rfl
    rw [if_neg fun h => h.elim hsmall hcapital]

/-- The value of a run of digits. -/
theorem digitsFrom?_of_digits {ds : List Char} (h : ∀ c ∈ ds, isDigit c = true) :
    Text.digitsFrom? 0 ds = some (Nat.ofDigitChars 10 ds 0) :=
  Text.digitsFrom?_of_isDigit 0 ds h

theorem digitsFrom?_toDigits (n : Nat) : Text.digitsFrom? 0 (Nat.toDigits 10 n) = some n := by
  rw [digitsFrom?_of_digits fun _ => isDigit_of_mem_toDigits, Nat.ofDigitChars_ten_toDigits]

/-- A numeral is read without its sign. -/
theorem magnitude?_toDigits (negative : Bool) (n : Nat) {rest : List Char}
    (hr : EndsNumeral rest) :
    magnitude? negative (Nat.toDigits 10 n ++ rest) =
      some (Number.ofNumeral negative (Nat.toDigits 10 n) none none, rest) := by
  have hzero : ¬ ((Nat.toDigits 10 n).head? = some '0' ∧ (Nat.toDigits 10 n).length ≠ 1) := by
    rintro ⟨hhead, hlength⟩
    by_cases hn : n = 0
    · subst hn
      exact hlength rfl
    · exact head?_toDigits hn hhead
  simp only [magnitude?, run?_toDigits n hr, Option.bind_eq_bind, Option.bind_some,
    fraction?_of_ends hr, exponent?_of_ends hr, Option.pure_def, if_neg hzero]

/-- The numbers that are written as they are read. -/
def Exact (i : Int) : Prop := -9223372036854775808 ≤ i ∧ i ≤ 18446744073709551615

instance (i : Int) : Decidable (Exact i) := inferInstanceAs (Decidable (_ ∧ _))

theorem toList_toString_ofNat (n : Nat) : (toString (n : Int)).toList = Nat.toDigits 10 n :=
  Nat.toList_repr

theorem toList_toString_negSucc (n : Nat) :
    (toString (Int.negSucc n)).toList = '-' :: Nat.toDigits 10 (n + 1) := by
  have h : toString (Int.negSucc n) = "-" ++ Nat.repr (n + 1) := rfl
  rw [h, String.toList_append, Nat.toList_repr]
  rfl

/-- A whole number is read back from its numeral. -/
theorem numeral?_toString {i : Int} (hi : Exact i) {rest : List Char} (hr : EndsNumeral rest) :
    numeral? ((toString i).toList ++ rest) = some (.whole i, rest) := by
  obtain ⟨hlow, hhigh⟩ := hi
  cases i with
  | ofNat n =>
      have hd : ∃ d ds, Nat.toDigits 10 n = d :: ds ∧ d ≠ '-' := by
        cases h : Nat.toDigits 10 n with
        | nil => exact absurd h Nat.toDigits_ne_nil
        | cons d ds =>
            refine ⟨d, ds, rfl, ?_⟩
            rintro rfl
            have := @isDigit_of_mem_toDigits n '-' (h ▸ List.mem_cons_self)
            exact absurd this (by decide)
      have hread := magnitude?_toDigits false n hr
      have hvalue : Number.ofNumeral false (Nat.toDigits 10 n) none none =
          .whole (Int.ofNat n) := by
        simp only [Int.ofNat_eq_natCast] at hlow hhigh
        simp [Number.ofNumeral, Nat.ofDigitChars_ten_toDigits]
        omega
      rw [Int.ofNat_eq_natCast, toList_toString_ofNat, numeral?]
      · rw [hread, hvalue]
        rfl
      · obtain ⟨d, ds, he, hne⟩ := hd
        intro after h
        rw [he] at h
        exact hne (List.cons.inj h).1
  | negSucc n =>
      have hvalue : Number.ofNumeral true (Nat.toDigits 10 (n + 1)) none none =
          .whole (Int.negSucc n) := by
        have hneg : -((n + 1 : Nat) : Int) = Int.negSucc n := rfl
        simp only [Number.ofNumeral, Nat.ofDigitChars_ten_toDigits, if_true, hneg]
        rw [if_pos ⟨trivial, trivial, hlow, hhigh, by simp⟩]
      rw [toList_toString_negSucc, List.cons_append, numeral?, magnitude?_toDigits true _ hr,
        hvalue]

end Json.Token

end OsdMigration
