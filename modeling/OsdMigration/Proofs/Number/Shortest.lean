import OsdMigration.Number.Shortest

set_option autoImplicit false

/-! # The digits of a double precision number

The digits that a number other than zero is written with are not all zero (`shortest_pos`).
-/

namespace OsdMigration.Number.Binary64

variable {x : Binary64}

theorem pow_pos_two (k : Nat) : 0 < Nat.pow 2 k := Nat.pow_pos (by omega)

/-- Zero is not among the reals that round to another number. -/
theorem pos_of_holds (hm : 0 < x.mantissa) {n : Nat} {k : Int}
    (h : x.interval.holds n k = true) : 0 < n := by
  refine Nat.pos_of_ne_zero ?_
  rintro rfl
  have hlow : 0 < x.interval.low * Nat.pow 10 (-k).toNat := by
    have hquarters : 0 < 4 * x.mantissa -
        if x.mantissa = hiddenBit ∧ minExponent < x.exponent then 1 else 2 := by
      split <;> omega
    exact Nat.mul_pos (Nat.mul_pos hquarters (pow_pos_two _)) (Nat.pow_pos (by omega))
  -- the lower end lies above zero, whether or not it belongs to the interval
  unfold Interval.holds at h
  simp only [Nat.zero_mul] at h
  split at h
  · simp only [Bool.and_eq_true, decide_eq_true_eq] at h
    exact Nat.not_le.2 hlow h.1
  · simp at h

theorem pos_of_candidate? (hm : 0 < x.mantissa) {k : Int} {n : Nat}
    (h : x.candidate? k = some n) : 0 < n := by
  unfold candidate? at h
  extract_lets num den down near far at h
  split at h
  · rename_i hnear
    exact pos_of_holds hm (Option.some.inj h ▸ hnear)
  · split at h
    · rename_i hfar
      exact pos_of_holds hm (Option.some.inj h ▸ hfar)
    · cases h

theorem searchDigits_pos (hm : 0 < x.mantissa) (fuel count : Nat) :
    0 < (x.searchDigits fuel count).1 := by
  induction fuel generalizing count with
  | zero => exact Nat.mul_pos hm (pow_pos_two _)
  | succ fuel ih =>
      rw [searchDigits]
      split
      · exact pos_of_candidate? hm ‹_›
      · exact ih (count + 1)

/-- Zeros at the end can go. -/
theorem stripZeros_pos (fuel : Nat) {n : Nat} (hn : 0 < n) (k : Int) :
    0 < (stripZeros fuel n k).1 := by
  induction fuel generalizing n k with
  | zero => exact hn
  | succ fuel ih =>
      rw [stripZeros]
      split
      · exact ih (by omega) (k + 1)
      · exact hn

/-- The digits of a number other than zero. -/
theorem shortest_pos (hm : 0 < x.mantissa) :
    0 < (stripZeros 400 x.shortest.1 x.shortest.2).1 :=
  stripZeros_pos 400 (searchDigits_pos hm 17 1) _

end OsdMigration.Number.Binary64
