import Mathlib.Data.List.Induction
import OsdMigration.Proofs.Budget

set_option autoImplicit false

/-! # What a budget has been told

A budget is told of every success and every failure of a check. Whether it counts a failure depends
on the innermost cause alone, whatever steps the failure is annotated with (`counts_failure`). What it
has counted is the number of such failures since the last success, also if it goes on to be told of
failures after it has handed one out (`after_eq`). So the history decides what becomes of the next
failure, and a loop that ends with the first one that is handed out does not count beyond the limit
(`goes_by_history`).

The count is a natural number, where a word of 32 bits would start again from zero after as many
failures as it has values.
-/

namespace OsdMigration

namespace Failure

/-! ## Causes -/

/-- A failure during steps that are part of one another, the outermost first. -/
def under (steps : List String) (cause : Failure) : Failure := steps.foldr during cause

/-- A failure without annotations. -/
def Bare (f : Failure) : Prop := ∀ step cause, f ≠ .during step cause

/-- The causes that another try may mend: a call that failed, what could not be read, a command that
gave an exit code, and patience that was lost with any of them. -/
inductive Passing : Failure → Prop
  | api (text : String) : Passing (.api text)
  | unreachable (command pod reason : String) : Passing (.unreachable command pod reason)
  | exitCode (code : Int) (pod command stderr : String) :
      Passing (.exitCode code pod command stderr)
  | output (command text : String) : Passing (.output command text)
  | json (text : String) : Passing (.json text)
  | device (text : String) : Passing (.device text)
  | repeated (operation : String) (attempts : Nat) (cause : Failure) :
      Passing (.repeated operation attempts cause)

/-- Every failure is a cause during some steps, or none. -/
theorem exists_under (f : Failure) : ∃ steps cause, f = under steps cause ∧ cause.Bare := by
  induction f with
  | during step f ih =>
      obtain ⟨steps, cause, rfl, hcause⟩ := ih
      exact ⟨step :: steps, cause, rfl, hcause⟩
  | _ => exact ⟨[], _, rfl, nofun⟩

theorem category_under (steps : List String) (cause : Failure) :
    (under steps cause).category = cause.category := by
  induction steps with
  | nil => rfl
  | cons step steps ih => exact ih

/-- The steps make no difference to whether it is worth trying again. -/
theorem isRetryable_under (steps : List String) (cause : Failure) :
    (under steps cause).isRetryable = cause.isRetryable := by
  rw [isRetryable, isRetryable, category_under]

variable {cause : Failure}

theorem Passing.isRetryable (h : cause.Passing) : cause.isRetryable = true := by
  cases h <;> rfl

theorem passing_of_isRetryable (hbare : cause.Bare) (h : cause.isRetryable = true) :
    cause.Passing := by
  cases cause with
  | during step cause => exact absurd rfl (hbare step cause)
  | api => exact .api _
  | unreachable => exact .unreachable ..
  | exitCode => exact .exitCode ..
  | output => exact .output ..
  | json => exact .json _
  | device => exact .device _
  | repeated => exact .repeated ..
  | _ => cases h

theorem isRetryable_eq_false (hbare : cause.Bare) (h : ¬ cause.Passing) :
    cause.isRetryable = false :=
  Bool.eq_false_iff.2 fun hr => h (passing_of_isRetryable hbare hr)

end Failure

namespace Budget

open Failure (under Bare Passing)

/-! ## Calls -/

/-- What a budget is told about its check. -/
inductive Call where
  | success
  | failure (f : Failure)
deriving DecidableEq

/-- The budget after a call, and what the call returns. -/
def tell (b : Budget) : Call → Budget × Attempt Unit
  | .success => (b.succeed, .ok ())
  | .failure f => b.fail f

/-- The budget after one call and the next, whatever they return. -/
def after (b : Budget) (history : List Call) : Budget :=
  history.foldl (fun b c => (b.tell c).1) b

/-- The budget at the end of a loop that makes these calls up to the first one that returns a
failure. -/
def loop (b : Budget) : List Call → Budget
  | [] => b
  | c :: calls =>
    match b.tell c with
    | (b, .ok ()) => b.loop calls
    | (b, .error _) => b

/-- A call that has to be counted: a failure that another try may mend, during any steps. -/
def Call.Counts (c : Call) : Prop :=
  ∃ steps cause, Passing cause ∧ c = .failure (under steps cause)

/-- The calls since the last success, the latest first. -/
def sinceSuccess (history : List Call) : List Call := history.reverse.takeWhile (· ≠ .success)

theorem counts_failure {f : Failure} : Call.Counts (.failure f) ↔ f.isRetryable = true := by
  constructor
  · rintro ⟨steps, cause, hcause, he⟩
    rw [Call.failure.inj he, Failure.isRetryable_under]
    exact hcause.isRetryable
  · intro h
    obtain ⟨steps, cause, rfl, hbare⟩ := Failure.exists_under f
    rw [Failure.isRetryable_under] at h
    exact ⟨steps, cause, Failure.passing_of_isRetryable hbare h, rfl⟩

theorem not_counts_success : ¬ Call.Counts .success := by
  rintro ⟨steps, cause, _, he⟩
  cases he

instance : DecidablePred Call.Counts
  | .success => isFalse not_counts_success
  | .failure _ => decidable_of_iff _ counts_failure.symm

/-- How many calls since the last success have to be counted. -/
def tally (history : List Call) : Nat := (sinceSuccess history).countP (·.Counts)

variable {operation : String} {limit : Nat} {b : Budget} {f : Failure} {history : List Call}

/-! ## One more call -/

theorem tally_success : tally (history ++ [.success]) = 0 := by
  simp [tally, sinceSuccess]

theorem sinceSuccess_failure :
    sinceSuccess (history ++ [.failure f]) = .failure f :: sinceSuccess history := by
  simp [sinceSuccess]

theorem tally_of_retryable (h : f.isRetryable = true) :
    tally (history ++ [.failure f]) = tally history + 1 := by
  rw [tally, sinceSuccess_failure, List.countP_cons_of_pos (by simpa using counts_failure.2 h), tally]

/-- A failure that trying again cannot mend neither counts nor starts the count again. -/
theorem tally_of_not_retryable (h : f.isRetryable = false) :
    tally (history ++ [.failure f]) = tally history := by
  have hnot : ¬ Call.Counts (.failure f) := fun hc => by
    rw [counts_failure, h] at hc
    cases hc
  rw [tally, sinceSuccess_failure, List.countP_cons_of_neg (by simpa using hnot), tally]

theorem after_append (c : Call) : b.after (history ++ [c]) = ((b.after history).tell c).1 := by
  rw [after, List.foldl_append]
  rfl

/-- What a new budget has counted after some calls is the number of failures since the last success
that count. Nothing else about it has changed. -/
theorem after_eq (operation : String) (limit : Nat) (history : List Call) :
    after ⟨operation, limit, 0⟩ history = ⟨operation, limit, tally history⟩ := by
  -- on the calls in the order in which they are made
  induction history using List.reverseRecOn with
  | nil => rfl
  | append_singleton history c ih =>
      rw [after_append, ih]
      cases c with
      | success =>
          rw [tally_success]
          rfl
      | failure f =>
          rw [tell]
          cases hf : f.isRetryable with
          | false => rw [fail_of_not_retryable hf, tally_of_not_retryable hf]
          | true => rw [fail_of_retryable hf, tally_of_retryable hf]

/-! ## A loop -/

theorem InUse.le (h : InUse operation limit b) : b.inRow ≤ max limit 1 := by
  rcases h.room with h | h <;> omega

/-- A budget in use counts up to its limit, if the loop ends with the failure that fills it. -/
theorem InUse.loop_le (h : InUse operation limit b) (calls : List Call) :
    (b.loop calls).inRow ≤ max limit 1 := by
  -- on the calls, for every budget in use: one that goes on is in use again
  induction calls generalizing b with
  | nil => exact h.le
  | cons c calls ih =>
      cases c with
      | success => exact ih h.succeed
      | failure f =>
          rw [loop, tell]
          cases hf : f.isRetryable with
          | false =>
              rw [fail_of_not_retryable hf]
              exact h.le
          | true =>
              rw [fail_of_retryable hf]
              by_cases hl : b.limit ≤ b.inRow + 1
              · rw [if_pos hl]
                exact Nat.le_of_eq (h.lost hl)
              · rw [if_neg hl]
                have hroom : b.inRow + 1 < limit := h.limit_eq ▸ Nat.lt_of_not_le hl
                exact ih ⟨h.operation_eq, h.limit_eq, .inr hroom⟩

/-! ## By the history -/

/-- What a budget does is known from the calls since it was made. -/
structure ByHistory (operation : String) (limit : Nat) (history : List Call) : Prop where
  /-- It has counted the failures since the last success that another try may mend. -/
  count : after ⟨operation, limit, 0⟩ history = ⟨operation, limit, tally history⟩
  /-- A failure with a cause that no other try can mend is handed out as it is. -/
  final : ∀ steps cause, Bare cause → ¬ Passing cause →
    ((after ⟨operation, limit, 0⟩ history).fail (under steps cause)).2 =
      .error (under steps cause)
  /-- Any other one is handed out with the count if it brings that to the limit, and else is put up
  with. -/
  counted : ∀ steps cause, Passing cause →
    ((after ⟨operation, limit, 0⟩ history).fail (under steps cause)).2 =
      if limit ≤ tally (history ++ [.failure (under steps cause)]) then
        .error (.repeated operation (tally (history ++ [.failure (under steps cause)]))
          (under steps cause))
      else .ok ()
  /-- In a loop that ends with the first failure that is handed out, it does not count beyond the
  limit, or beyond one if that is zero. -/
  bounded : (loop ⟨operation, limit, 0⟩ history).inRow ≤ max limit 1

theorem goes_by_history (operation : String) (limit : Nat) (history : List Call) :
    ByHistory operation limit history where
  count := after_eq operation limit history
  final steps cause hbare hcause := by
    have hf : (under steps cause).isRetryable = false := by
      rw [Failure.isRetryable_under]
      exact Failure.isRetryable_eq_false hbare hcause
    rw [fail_of_not_retryable hf]
  counted steps cause hcause := by
    have hf : (under steps cause).isRetryable = true := by
      rw [Failure.isRetryable_under]
      exact hcause.isRetryable
    rw [after_eq, fail_of_retryable hf, tally_of_retryable hf]
  bounded := InUse.loop_le ⟨rfl, rfl, .inl rfl⟩ history

/-- The failure in the middle cannot be mended, and the count goes on after it. -/
example :
    (after ⟨"fetch ceph status", 1, 0⟩ [.failure (.api "refused"), .failure (.missing "Pod" "a"),
      .failure (.during "list pods" (.json "eof"))]).inRow = 2 := by
  decide

end Budget

end OsdMigration
