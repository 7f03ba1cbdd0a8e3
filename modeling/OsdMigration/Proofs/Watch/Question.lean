import OsdMigration.Proofs.Budget
import OsdMigration.Proofs.Watch.Basic

set_option autoImplicit false

/-! # Waits that ask one question

Most waits ask the same question in every poll and go by its answers. `Question.Decides` is the rule
for them: enough good answers in a row end the wait well, an answer that leaves no hope and a
failure that trying again cannot mend end it at once, and so do too many other failures in a row. A
budget stands for the failures in a row (`Budget.Counts`).
-/

namespace OsdMigration

/-- How many of the latest findings in a row are such. -/
def row {ι : Type} (such : ι → Bool) (h : List ι) : Nat := (h.takeWhile such).length

section

variable {ι : Type} {such : ι → Bool} {x : ι} (h : List ι)

theorem row_cons_of_pos (hx : such x = true) : row such (x :: h) = row such h + 1 := by
  simp [row, hx]

theorem row_cons_of_neg (hx : such x = false) : row such (x :: h) = 0 := by
  simp [row, hx]

theorem such_of_le_row {h : List ι} {wanted : Nat} (hw : 0 < wanted)
    (enough : wanted ≤ row such (x :: h)) : such x = true := by
  cases hx : such x with
  | true => rfl
  | false =>
      rw [row_cons_of_neg h hx] at enough
      omega

end

/-! ## Failures that count -/

/-- A budget for an operation with which so many failures have been counted. -/
structure Budget.Counts (operation : String) (patience count : Nat) (b : Budget) : Prop where
  inUse : b.InUse operation patience
  inRow_eq : b.inRow = count

section

variable {operation : String} {patience count : Nat} {b : Budget}

theorem Budget.counts_zero : Budget.Counts operation patience 0 ⟨operation, patience, 0⟩ :=
  ⟨⟨rfl, rfl, .inl rfl⟩, rfl⟩

theorem Budget.Counts.succeed (hb : b.Counts operation patience count) :
    b.succeed.Counts operation patience 0 := ⟨hb.inUse.succeed, rfl⟩

/-- A failure leads where its budget says: it ends the wait at once, or counts, and the last one
that counts ends the wait too. -/
theorem leads_spend {ι ω : Type} {W : Watch ι} {Means : List ι → ω → Prop} {h : List ι}
    {f : Failure} {remember : Budget → ω} {passing : Option String}
    (hb : b.Counts operation patience count)
    (final : f.isRetryable = false → ∀ r, W.Settles h r ↔ r = .error f)
    (counted : f.isRetryable = true → ∀ r, W.Settles h r ↔
      r = .error (.repeated operation (max patience 1) f) ∧ max patience 1 ≤ count + 1)
    (tells : passing = W.telling h)
    (means : f.isRetryable = true → ∀ b', b'.Counts operation patience (count + 1) →
      Means h (remember b')) :
    W.Leads Means h (do let b' ← b.spend f; pure (.again (remember b') passing)) := by
  obtain ⟨hin, rfl⟩ := hb
  cases hf : f.isRetryable with
  | false =>
      rw [Budget.spend_of_not_retryable hf]
      exact .failed (final hf)
  | true =>
      have hlimit : b.limit = patience := hin.limit_eq
      rw [Budget.spend_of_retryable hf]
      -- the budget is spent just if the count of the rule is at the patience
      by_cases hl : b.limit ≤ b.inRow + 1
      · have hlost : b.inRow + 1 = max patience 1 := hin.lost hl
        rw [if_pos hl, hin.operation_eq, hlost]
        refine .failed fun r => ?_
        rw [counted hf, hlost]
        exact and_iff_left (Nat.le_refl _)
      · rw [if_neg hl]
        have hroom : b.inRow + 1 < max patience 1 := by omega
        refine .again (fun r hs => ?_) (means hf _ ⟨⟨hin.operation_eq, hlimit, ?_⟩, rfl⟩) tells
        · rw [counted hf] at hs
          exact absurd hs.2 (Nat.not_le_of_gt hroom)
        · show b.inRow + 1 = 0 ∨ b.inRow + 1 < patience
          omega

end

/-! ## Questions -/

/-- A failure after which it is worth trying again. -/
def Attempt.missed {β : Type} : Attempt β → Bool
  | .ok _ => false
  | .error f => f.isRetryable

/-- A question that a wait asks in every poll. -/
structure Question (β : Type) where
  /-- What asking it is called, for the failure of a wait that loses patience. -/
  operation : String
  /-- How many failures in a row the settings allow. -/
  patience : Nat
  /-- How many good answers in a row are wanted. -/
  wanted : Nat
  wanted_pos : 0 < wanted
  /-- Whether an answer is good. A failure says that no better one can come. -/
  judge : β → Attempt Bool

namespace Question

variable {β : Type}

/-- How many failures in a row end the wait; one at least. -/
def tolerance (q : Question β) : Nat := max q.patience 1

/-- The question was answered, and well. -/
def good (q : Question β) : Attempt β → Bool
  | .ok x => (q.judge x matches .ok true)
  | .error _ => false

/-- What the answers to a question decide, the latest first. -/
inductive Decides (q : Question β) : List (Attempt β) → Attempt Unit → Prop
  /-- The last answers were good, as many in a row as are wanted. -/
  | met {h : List (Attempt β)} (enough : q.wanted ≤ row q.good h) : Decides q h (.ok ())
  /-- The last answer leaves no hope. -/
  | refused {h : List (Attempt β)} {x : β} {f : Failure} (judged : q.judge x = .error f) :
      Decides q (.ok x :: h) (.error f)
  /-- Asking failed too often in a row. The failure counts the failures and names the last. -/
  | impatient {h : List (Attempt β)} {f : Failure} (retryable : f.isRetryable = true)
      (full : q.tolerance ≤ row Attempt.missed (.error f :: h)) :
      Decides q (.error f :: h) (.error (.repeated q.operation q.tolerance f))
  /-- Asking failed in a way that trying again cannot mend. -/
  | hopeless {h : List (Attempt β)} {f : Failure} (final : f.isRetryable = false) :
      Decides q (.error f :: h) (.error f)

variable {q : Question β} {h : List (Attempt β)} {x : β} {f : Failure} {r : Attempt Unit}

theorem not_decides_nil : ¬ q.Decides [] r := by
  rintro (⟨enough⟩ | _)
  exact absurd enough (Nat.not_le_of_gt q.wanted_pos)

/-- A row that is as long as wanted has a good answer at its end. -/
theorem good_of_wanted {a : Attempt β} (enough : q.wanted ≤ row q.good (a :: h)) :
    q.good a = true := such_of_le_row q.wanted_pos enough

theorem decides_good (hx : q.judge x = .ok true) :
    q.Decides (.ok x :: h) r ↔ r = .ok () ∧ q.wanted ≤ row q.good h + 1 := by
  have hrow : row q.good (.ok x :: h) = row q.good h + 1 := row_cons_of_pos h (by simp [good, hx])
  constructor
  · intro hd
    cases hd with
    | met enough => exact ⟨rfl, hrow ▸ enough⟩
    | refused judged =>
        rw [hx] at judged
        cases judged
  · rintro ⟨rfl, enough⟩
    exact .met (hrow ▸ enough)

theorem not_decides_other (hx : q.judge x = .ok false) : ¬ q.Decides (.ok x :: h) r := by
  intro hd
  cases hd with
  | met enough =>
      have hgood := good_of_wanted enough
      simp [good, hx] at hgood
  | refused judged =>
      rw [hx] at judged
      cases judged

theorem decides_refused (hx : q.judge x = .error f) :
    q.Decides (.ok x :: h) r ↔ r = .error f := by
  constructor
  · intro hd
    cases hd with
    | met enough =>
        have hgood := good_of_wanted enough
        simp [good, hx] at hgood
    | refused judged =>
        rw [hx] at judged
        cases judged
        rfl
  · rintro rfl
    exact .refused hx

theorem decides_hopeless (hf : f.isRetryable = false) :
    q.Decides (.error f :: h) r ↔ r = .error f := by
  constructor
  · intro hd
    cases hd with
    | met enough => cases good_of_wanted enough
    | impatient retryable _ =>
        rw [hf] at retryable
        cases retryable
    | hopeless _ => rfl
  · rintro rfl
    exact .hopeless hf

theorem decides_missed (hf : f.isRetryable = true) :
    q.Decides (.error f :: h) r ↔
      r = .error (.repeated q.operation q.tolerance f) ∧
        q.tolerance ≤ row Attempt.missed h + 1 := by
  have hrow : row Attempt.missed (.error f :: h) = row Attempt.missed h + 1 :=
    row_cons_of_pos h hf
  constructor
  · intro hd
    cases hd with
    | met enough => cases good_of_wanted enough
    | impatient _ full => exact ⟨rfl, hrow ▸ full⟩
    | hopeless final =>
        rw [hf] at final
        cases final
  · rintro ⟨rfl, full⟩
    exact .impatient hf (hrow ▸ full)

/-! ## What an answer leads to -/

/-- The budget of a wait after these answers. -/
abbrev Spent (q : Question β) (h : List (Attempt β)) (b : Budget) : Prop :=
  b.Counts q.operation q.patience (row Attempt.missed h)

section

variable {ω : Type} {W : Watch (Attempt β)} {Means : List (Attempt β) → ω → Prop} {b : Budget}
  {remember : Budget → ω} {passing : Option String}

/-- A failure to ask the question leads where its budget says. -/
theorem leads_error (hW : W.Settles = q.Decides) (hb : q.Spent h b)
    (tells : passing = W.telling (.error f :: h))
    (means : ∀ b', q.Spent (.error f :: h) b' → Means (.error f :: h) (remember b')) :
    W.Leads Means (.error f :: h)
      (do let b' ← b.spend f; pure (.again (remember b') passing)) := by
  refine leads_spend hb (fun hf r => ?_) (fun hf r => ?_) tells fun hf b' hb' => means b' ?_
  · rw [hW, decides_hopeless hf]
  · rw [hW]
    exact decides_missed hf
  · show b'.Counts _ _ (row Attempt.missed (.error f :: h))
    rw [row_cons_of_pos h hf]
    exact hb'

/-- Where one good answer is enough, an answer ends the wait or is remembered. -/
theorem leads_answer {good : Prop} [Decidable good] {w : ω} (hW : W.Settles = q.Decides)
    (hone : q.wanted = 1) (judged : q.judge x = .ok (decide good))
    (tells : passing = W.telling (.ok x :: h)) (means : Means (.ok x :: h) w) :
    W.Leads Means (.ok x :: h) (if good then .ok .met else .ok (.again w passing)) := by
  by_cases hgood : good
  · rw [if_pos hgood]
    rw [decide_eq_true hgood] at judged
    refine .met fun r => ?_
    rw [hW, decides_good judged, hone]
    exact and_iff_left (Nat.le_add_left 1 _)
  · rw [if_neg hgood]
    rw [decide_eq_false hgood] at judged
    refine .again (fun r hd => ?_) means tells
    rw [hW] at hd
    exact not_decides_other judged hd

end

end Question

end OsdMigration
