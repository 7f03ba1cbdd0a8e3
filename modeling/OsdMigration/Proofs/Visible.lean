import OsdMigration.Number.Fixed
import OsdMigration.Text.Quoted

set_option autoImplicit false

/-! # What can be seen of a text

A text is visible if none of its characters is hidden. Numbers are written with visible characters,
and so is a quoted text, whatever is quoted (`visible_quote`). What breaks a line is hidden, so a
visible text is one line.
-/

namespace OsdMigration.Text

/-! ## Visible characters -/

/-- None of the characters is hidden. -/
def Visible (cs : List Char) : Prop := ∀ c ∈ cs, isHidden c = false

instance (cs : List Char) : Decidable (Visible cs) := List.decidableBAll _ cs

@[simp] theorem visible_append {cs ds : List Char} :
    Visible (cs ++ ds) ↔ Visible cs ∧ Visible ds := List.forall_mem_append

@[simp] theorem visible_cons {c : Char} {cs : List Char} :
    Visible (c :: cs) ↔ isHidden c = false ∧ Visible cs := List.forall_mem_cons

@[simp] theorem visible_nil : Visible [] := List.forall_mem_nil _

theorem isHidden_digitChar (n : Nat) : isHidden n.digitChar = false := by
  by_cases hn : n < 16
  · have : ∀ m < 16, isHidden (Nat.digitChar m) = false := by decide +kernel
    exact this n hn
  · have : n.digitChar = '*' := by
      unfold Nat.digitChar
      repeat rw [if_neg (by omega)]
    rw [this]
    decide +kernel

/-- Digits in any base are visible. -/
theorem visible_toDigits {base : Nat} (hb : 1 < base) (n : Nat) :
    Visible (Nat.toDigits base n) := by
  induction n using Nat.strongRecOn with
  | ind n ih =>
      by_cases hn : n < base
      · rw [Nat.toDigits_of_lt_base hn]
        simp [isHidden_digitChar]
      · have hsmaller : n / base < n := Nat.div_lt_self (by omega) hb
        rw [Nat.toDigits_of_base_le hb (by omega), visible_append]
        exact ⟨ih _ hsmaller, by simp [isHidden_digitChar]⟩

theorem visible_toString (n : Nat) : Visible (toString n).toList := by
  have : (toString n).toList = Nat.toDigits 10 n := by simp
  rw [this]
  exact visible_toDigits (by omega) n

/-! ## Quoted texts -/

/-- A character stands for itself inside the quotes only if it can be seen. -/
theorem visible_escape (c : Char) : Visible (escape c) := by
  unfold escape
  -- the six characters with an escape of their own
  iterate 6
    split
    · decide +kernel
  split
  · rw [visible_append, visible_append]
    exact ⟨⟨by decide +kernel, visible_toDigits (by omega) _⟩, by decide +kernel⟩
  · rename_i hseen
    simpa using hseen

/-- A quoted text is visible as a whole. -/
theorem visible_quote (s : String) : Visible (quote s).toList := by
  rw [quote, String.toList_ofList, visible_append, visible_append]
  refine ⟨⟨by decide +kernel, fun c hc => ?_⟩, by decide +kernel⟩
  obtain ⟨a, _, ha⟩ := List.mem_flatMap.1 hc
  exact visible_escape a c ha

/-! ## Line breaks -/

/-- The characters that end a line: line feed, line tabulation, form feed, carriage return, next
line, and the separators of lines and of paragraphs. -/
def lineBreaks : List Char := ['\n', '\x0b', '\x0c', '\r', '\x85', '\u2028', '\u2029']

/-- The text does not go on in another line. -/
def OneLine (s : String) : Prop := ∀ c ∈ lineBreaks, c ∉ s.toList

instance (s : String) : Decidable (OneLine s) := List.decidableBAll _ lineBreaks

theorem isHidden_of_lineBreak {c : Char} (hc : c ∈ lineBreaks) : isHidden c = true := by
  have hall : lineBreaks.all isHidden = true := by decide +kernel
  exact List.all_eq_true.1 hall c hc

/-! ## Texts put together -/

theorem mem_intercalate {sep : String} {c : Char} (hsep : c ∉ sep.toList) (xs : List String) :
    c ∈ (String.intercalate sep xs).toList ↔ ∃ x ∈ xs, c ∈ x.toList := by
  induction xs with
  | nil => simp
  | cons x xs ih =>
      cases xs with
      | nil => simp
      | cons y ys =>
          rw [String.intercalate_cons_cons, String.toList_append, String.toList_append,
            List.mem_append, List.mem_append, ih]
          simp [hsep]

end OsdMigration.Text

namespace OsdMigration.Number

open Text (Visible visible_append visible_toDigits visible_toString)

/-! ## Numbers -/

theorem visible_padded (width n : Nat) : Visible (padded width n).toList := by
  rw [padded, String.toList_ofList, visible_append]
  refine ⟨fun c hc => ?_, visible_toDigits (by omega) n⟩
  rw [List.eq_of_mem_replicate hc]
  decide +kernel

theorem visible_fixedRatio (negative : Bool) (num den places : Nat) :
    Visible (fixedRatio negative num den places).toList := by
  have hsign : Visible (if negative then "-" else "").toList := by
    cases negative <;> decide +kernel
  simp only [fixedRatio, String.toList_append, visible_append]
  exact ⟨⟨⟨hsign, visible_toString _⟩, by decide +kernel⟩, visible_padded _ _⟩

theorem visible_percent (x : Binary64) : Visible x.percent.toList := by
  unfold Binary64.percent
  split
  · exact visible_fixedRatio _ _ _ _
  · cases x.negative <;> decide +kernel

end OsdMigration.Number
