set_option autoImplicit false

/-! # Maps keyed by names

A map from names to values is the list of its pairs in increasing order of the name, every name
at most once. Names are compared by their code points, which is also the order of their UTF-8
bytes. Two maps with the same bindings are therefore equal, and whatever walks over a map meets
the names in that order.
-/

namespace OsdMigration

universe u v

/-- A finite map from names to values, in the order of the names. -/
structure NameMap (α : Type u) where
  pairs : List (String × α)
  sorted : pairs.Pairwise (fun p q => p.1 < q.1)

namespace NameMap

variable {α : Type u} {β : Type v}

@[ext] theorem ext {m n : NameMap α} (h : m.pairs = n.pairs) : m = n := by
  cases m; cases n; cases h; rfl

instance [DecidableEq α] : DecidableEq (NameMap α) := fun m n =>
  decidable_of_iff (m.pairs = n.pairs) ⟨ext, fun h => by rw [h]⟩

instance [Repr α] : Repr (NameMap α) := ⟨fun m n => reprPrec m.pairs n⟩

/-- The map without bindings. -/
def empty : NameMap α := ⟨[], .nil⟩

instance : Inhabited (NameMap α) := ⟨empty⟩

instance : EmptyCollection (NameMap α) := ⟨empty⟩

/-! ## Operations on the list of pairs -/

/-- Puts a pair at its place, replacing the pair of the same name. -/
def put (k : String) (a : α) : List (String × α) → List (String × α)
  | [] => [(k, a)]
  | (k', a') :: rest =>
    if k < k' then (k, a) :: (k', a') :: rest
    else if k = k' then (k, a) :: rest
    else (k', a') :: put k a rest

theorem fst_mem_of_mem_put {k : String} {a : α} {l : List (String × α)} {p : String × α}
    (h : p ∈ put k a l) : p = (k, a) ∨ p ∈ l := by
  induction l with
  | nil => simpa [put] using h
  | cons q rest ih =>
    obtain ⟨k', a'⟩ := q
    simp only [put] at h
    split at h
    · simpa using h
    · split at h
      · rcases List.mem_cons.1 h with h | h
        · exact .inl h
        · exact .inr (List.mem_cons_of_mem _ h)
      · rcases List.mem_cons.1 h with h | h
        · exact .inr (by simp [h])
        · rcases ih h with h | h
          · exact .inl h
          · exact .inr (List.mem_cons_of_mem _ h)

theorem pairwise_put (k : String) (a : α) {l : List (String × α)}
    (h : l.Pairwise (fun p q => p.1 < q.1)) : (put k a l).Pairwise (fun p q => p.1 < q.1) := by
  induction l with
  | nil => simp [put]
  | cons q rest ih =>
    obtain ⟨k', a'⟩ := q
    obtain ⟨hq, hrest⟩ := List.pairwise_cons.1 h
    simp only [put]
    split
    · rename_i hlt
      refine List.pairwise_cons.2 ⟨fun p hp => ?_, h⟩
      rcases List.mem_cons.1 hp with rfl | hp
      · exact hlt
      · exact String.lt_trans hlt (hq p hp)
    · split
      · rename_i heq
        exact List.pairwise_cons.2 ⟨fun p hp => heq ▸ hq p hp, hrest⟩
      · rename_i hnlt hne
        refine List.pairwise_cons.2 ⟨fun p hp => ?_, ih hrest⟩
        rcases fst_mem_of_mem_put hp with rfl | hp
        · exact Std.lt_of_le_of_ne (String.not_lt.1 hnlt) (Ne.symm hne)
        · exact hq p hp

/-! ## The map -/

/-- Binds the name, replacing an earlier binding. -/
def insert (m : NameMap α) (k : String) (a : α) : NameMap α :=
  ⟨put k a m.pairs, pairwise_put k a m.sorted⟩

/-- Removes the binding of the name. -/
def erase (m : NameMap α) (k : String) : NameMap α :=
  ⟨m.pairs.filter (fun p => p.1 ≠ k), m.sorted.filter _⟩

/-- The value bound to the name. -/
def get? (m : NameMap α) (k : String) : Option α := m.pairs.lookup k

/-- Whether the name is bound. -/
def contains (m : NameMap α) (k : String) : Bool := (m.get? k).isSome

/-- The map of a list of pairs; of a repeated name the last binding counts. -/
def ofList (l : List (String × α)) : NameMap α :=
  l.foldl (fun m p => m.insert p.1 p.2) empty

/-- The names in increasing order. -/
def keys (m : NameMap α) : List String := m.pairs.map Prod.fst

/-- The values in the order of their names. -/
def values (m : NameMap α) : List α := m.pairs.map Prod.snd

/-- The values mapped, the names kept. -/
def mapValues (m : NameMap α) (f : String → α → β) : NameMap β :=
  ⟨m.pairs.map fun p => (p.1, f p.1 p.2), by
    refine List.pairwise_map.2 (m.sorted.imp fun {p q} h => ?_)
    exact h⟩

/-- Changes the value bound to a name, if there is one. -/
def modify (m : NameMap α) (k : String) (f : α → α) : NameMap α :=
  m.mapValues fun k' a => if k' = k then f a else a

end NameMap

end OsdMigration
