import OsdMigration.Json.Basic

set_option autoImplicit false

/-! # Equality of values

Two values are equal if they are written alike, members in the same order. This is finer than
what values mean (`Json/Canonical.lean`), and it can be decided.
-/

namespace OsdMigration

namespace Json

mutual

/-- Whether two values are the same, members in the same order. -/
def identical : Json → Json → Bool
  | .null, .null => true
  | .bool a, .bool b => a == b
  | .num a, .num b => a == b
  | .str a, .str b => a == b
  | .arr as, .arr bs => identicalItems as bs
  | .obj as, .obj bs => identicalMembers as bs
  | .unreadable, .unreadable => true
  | _, _ => false

/-- Whether two lists of items are the same. -/
def identicalItems : List Json → List Json → Bool
  | [], [] => true
  | a :: as, b :: bs => identical a b && identicalItems as bs
  | _, _ => false

/-- Whether two lists of members are the same. -/
def identicalMembers : List (String × Json) → List (String × Json) → Bool
  | [], [] => true
  | (m, a) :: as, (n, b) :: bs => m == n && identical a b && identicalMembers as bs
  | _, _ => false

end

theorem identical_self (a : Json) : identical a a = true := by
  refine Json.rec (motive_1 := fun a => identical a a = true)
    (motive_2 := fun as => identicalItems as as = true)
    (motive_3 := fun as => identicalMembers as as = true)
    (motive_4 := fun m => identical m.2 m.2 = true) ?_ ?_ ?_ ?_ ?_ ?_ ?_ ?_ ?_ ?_ ?_ ?_ a
  all_goals simp_all [identical, identicalItems, identicalMembers]

theorem eq_of_identical (a : Json) : ∀ b, identical a b = true → a = b := by
  -- values, lists of them and members are nested, so the recursor is used with a motive for each
  refine Json.rec (motive_1 := fun a => ∀ b, identical a b = true → a = b)
    (motive_2 := fun as => ∀ bs, identicalItems as bs = true → as = bs)
    (motive_3 := fun as => ∀ bs, identicalMembers as bs = true → as = bs)
    (motive_4 := fun m => ∀ b, identical m.2 b = true → m.2 = b)
    ?null ?bool ?num ?str ?arr ?obj ?unreadable ?nil ?cons ?none ?member ?pair a
  case arr =>
    intro as ih b h
    cases b <;> simp_all [identical]
    exact ih _ h
  case obj =>
    intro as ih b h
    cases b <;> simp_all [identical]
    exact ih _ h
  case cons =>
    intro a as ha has bs h
    cases bs with
    | nil => simp [identicalItems] at h
    | cons b bs =>
      simp only [identicalItems, Bool.and_eq_true] at h
      rw [ha b h.1, has bs h.2]
  case member =>
    intro m as hm has bs h
    cases bs with
    | nil => simp [identicalMembers] at h
    | cons n bs =>
      simp only [identicalMembers, Bool.and_eq_true, beq_iff_eq] at h
      rw [has bs h.2, Prod.ext h.1.1 (hm n.2 h.1.2)]
  case nil => intro bs h; cases bs <;> simp_all [identicalItems]
  case none => intro bs h; cases bs <;> simp_all [identicalMembers]
  case pair => intro _ _ ih; exact ih
  all_goals
    intros
    rename_i b h
    cases b <;> simp_all [identical]

theorem identical_iff (a b : Json) : identical a b = true ↔ a = b :=
  ⟨eq_of_identical a b, fun h => h ▸ identical_self a⟩

instance : DecidableEq Json := fun a b => decidable_of_iff _ (identical_iff a b)

end Json

end OsdMigration
