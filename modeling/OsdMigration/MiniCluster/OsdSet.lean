set_option autoImplicit false

/-! # Sets of OSDs

A set of OSD numbers is the list of its members in increasing order, each of them once.
-/

namespace OsdMigration

/-- A finite set of OSD numbers. -/
structure OsdSet where
  members : List UInt32
  sorted : members.Pairwise (· < ·)

namespace OsdSet

@[ext] theorem ext {s t : OsdSet} (h : s.members = t.members) : s = t := by
  cases s; cases t; cases h; rfl

instance : DecidableEq OsdSet := fun s t =>
  decidable_of_iff (s.members = t.members) ⟨ext, fun h => by rw [h]⟩

instance : Membership UInt32 OsdSet := ⟨fun s osd => osd ∈ s.members⟩

/-- The set without members. -/
def empty : OsdSet := ⟨[], .nil⟩

instance : EmptyCollection OsdSet := ⟨empty⟩

/-- Puts a number at its place, unless it is there. -/
def put (osd : UInt32) : List UInt32 → List UInt32
  | [] => [osd]
  | x :: xs => if osd < x then osd :: x :: xs else if osd = x then x :: xs else x :: put osd xs

theorem mem_put {osd y : UInt32} {l : List UInt32} : y ∈ put osd l ↔ y = osd ∨ y ∈ l := by
  induction l with
  | nil => simp [put]
  | cons x xs ih =>
    simp only [put]
    split
    · simp
    · split
      · rename_i h
        subst h
        simp
      · simp only [List.mem_cons, ih]
        constructor <;> rintro (h | h | h) <;> simp [h]

theorem pairwise_put (osd : UInt32) {l : List UInt32} (h : l.Pairwise (· < ·)) :
    (put osd l).Pairwise (· < ·) := by
  induction l with
  | nil => simp [put]
  | cons x xs ih =>
    obtain ⟨hx, hxs⟩ := List.pairwise_cons.1 h
    simp only [put]
    split
    · rename_i hlt
      refine List.pairwise_cons.2 ⟨fun y hy => ?_, h⟩
      rcases List.mem_cons.1 hy with rfl | hy
      · exact hlt
      · exact UInt32.lt_trans hlt (hx y hy)
    · split
      · exact h
      · rename_i hnlt hne
        refine List.pairwise_cons.2 ⟨fun y hy => ?_, ih hxs⟩
        rcases mem_put.1 hy with rfl | hy
        · exact UInt32.lt_of_le_of_ne (UInt32.not_lt.1 hnlt) (Ne.symm hne)
        · exact hx y hy

/-- The set with a number added. -/
def insert (s : OsdSet) (osd : UInt32) : OsdSet := ⟨put osd s.members, pairwise_put osd s.sorted⟩

/-- The set without a number. -/
def erase (s : OsdSet) (osd : UInt32) : OsdSet :=
  ⟨s.members.filter (· ≠ osd), s.sorted.filter _⟩

@[simp] theorem mem_insert {s : OsdSet} {osd y : UInt32} :
    y ∈ s.insert osd ↔ y = osd ∨ y ∈ s := mem_put

@[simp] theorem mem_erase {s : OsdSet} {osd y : UInt32} :
    y ∈ s.erase osd ↔ y ∈ s ∧ y ≠ osd := by
  change y ∈ s.members.filter (· ≠ osd) ↔ y ∈ s.members ∧ y ≠ osd
  simp

end OsdSet

end OsdMigration
