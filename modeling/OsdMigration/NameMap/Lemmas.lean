import OsdMigration.NameMap

set_option autoImplicit false

/-! # Maps keyed by names, looked up

A map is known by what `get?` gives for each name. Each operation is described by what it does to
that: `get?_insert`, `get?_erase`, `get?_mapValues`. Two maps that agree everywhere are equal
(`ext_get?`).
-/

namespace OsdMigration.NameMap

universe u v

variable {α : Type u} {β : Type v}

/-! ## The list of pairs -/

theorem lookup_cons (p : String × α) (l : List (String × α)) (k : String) :
    (p :: l).lookup k = if k = p.1 then some p.2 else l.lookup k := by
  obtain ⟨k', a⟩ := p
  by_cases h : k = k'
  · subst h
    rw [List.lookup_cons_self, if_pos rfl]
  · have : (k == k') = false := beq_false_of_ne h
    simp [List.lookup_cons, this, h]

theorem lookup_put (k k' : String) (a : α) (l : List (String × α)) :
    (put k a l).lookup k' = if k' = k then some a else l.lookup k' := by
  induction l with
  | nil => simp [put, lookup_cons]
  | cons p rest ih =>
    obtain ⟨n, b⟩ := p
    simp only [put]
    split
    · simp only [lookup_cons]
    · split
      · rename_i h
        subst h
        simp only [lookup_cons]
        split <;> rfl
      · rename_i h
        simp only [lookup_cons, ih]
        by_cases hk : k' = k
        · subst hk
          simp [h]
        · simp [hk]

theorem lookup_filter_ne (k k' : String) (l : List (String × α)) :
    (l.filter fun p => p.1 ≠ k).lookup k' = if k' = k then none else l.lookup k' := by
  induction l with
  | nil => simp
  | cons p rest ih =>
    by_cases hp : p.1 = k
    · rw [List.filter_cons_of_neg (by simpa using hp), ih, lookup_cons]
      by_cases hk : k' = k
      · simp [hk]
      · have : k' ≠ p.1 := fun h => hk (h.trans hp)
        simp [hk, this]
    · rw [List.filter_cons_of_pos (by simpa using hp), lookup_cons, lookup_cons, ih]
      by_cases hk : k' = k
      · subst hk
        simp [Ne.symm hp]
      · simp [hk]

theorem lookup_eq_some_iff {l : List (String × α)} (h : l.Pairwise (fun p q => p.1 < q.1))
    {k : String} {a : α} : l.lookup k = some a ↔ (k, a) ∈ l := by
  induction l with
  | nil => simp
  | cons p rest ih =>
    obtain ⟨hp, hrest⟩ := List.pairwise_cons.1 h
    rw [lookup_cons, List.mem_cons]
    split
    · rename_i hk
      subst hk
      constructor
      · intro ha
        exact .inl (by rw [← Option.some.inj ha])
      · rintro (hm | hm)
        · rw [← hm]
        · exact absurd (hp _ hm) (String.lt_irrefl _)
    · rename_i hk
      rw [ih hrest]
      constructor
      · exact .inr
      · rintro (hm | hm)
        · exact absurd (congrArg Prod.fst hm) hk
        · exact hm

theorem lookup_eq_none_of_lt {l : List (String × α)} {k : String} (h : ∀ p ∈ l, k < p.1) :
    l.lookup k = none := by
  induction l with
  | nil => rfl
  | cons p rest ih =>
    have hk : k ≠ p.1 := fun hk => String.lt_irrefl _ (hk ▸ h p (List.mem_cons_self ..))
    rw [lookup_cons, if_neg hk]
    exact ih fun q hq => h q (List.mem_cons_of_mem _ hq)

/-- Sorted lists of pairs that agree at every name are equal. -/
theorem eq_of_lookup {l m : List (String × α)} (hl : l.Pairwise (fun p q => p.1 < q.1))
    (hm : m.Pairwise (fun p q => p.1 < q.1)) (h : ∀ k, l.lookup k = m.lookup k) : l = m := by
  induction l generalizing m with
  | nil =>
    cases m with
    | nil => rfl
    | cons q s => simpa [lookup_cons] using h q.1
  | cons p r ih =>
    cases m with
    | nil => simpa [lookup_cons] using h p.1
    | cons q s =>
      obtain ⟨hp, hr⟩ := List.pairwise_cons.1 hl
      obtain ⟨hq, hs⟩ := List.pairwise_cons.1 hm
      have hpm : p ∈ q :: s := (lookup_eq_some_iff hm).1 (by rw [← h]; simp [lookup_cons])
      have hql : q ∈ p :: r := (lookup_eq_some_iff hl).1 (by rw [h]; simp [lookup_cons])
      -- each list has the head of the other, and neither head can stand behind a smaller name
      have hpq : p = q := by
        rcases List.mem_cons.1 hpm with he | hpm
        · exact he
        · rcases List.mem_cons.1 hql with he | hql
          · exact he.symm
          · exact absurd (String.lt_trans (hq p hpm) (hp q hql)) (String.lt_irrefl _)
      subst hpq
      congr 1
      refine ih hr hs fun k => ?_
      have hk := h k
      rw [lookup_cons, lookup_cons] at hk
      by_cases he : k = p.1
      · subst he
        rw [lookup_eq_none_of_lt hp, lookup_eq_none_of_lt hq]
      · simpa [he] using hk

/-! ## The map -/

@[simp] theorem get?_empty (k : String) : (empty : NameMap α).get? k = none := rfl

theorem get?_insert (m : NameMap α) (k k' : String) (a : α) :
    (m.insert k a).get? k' = if k' = k then some a else m.get? k' := lookup_put ..

@[simp] theorem get?_insert_self (m : NameMap α) (k : String) (a : α) :
    (m.insert k a).get? k = some a := by simp [get?_insert]

theorem get?_insert_of_ne (m : NameMap α) {k k' : String} (a : α) (h : k' ≠ k) :
    (m.insert k a).get? k' = m.get? k' := by simp [get?_insert, h]

theorem get?_erase (m : NameMap α) (k k' : String) :
    (m.erase k).get? k' = if k' = k then none else m.get? k' := lookup_filter_ne ..

theorem get?_eq_some_iff {m : NameMap α} {k : String} {a : α} :
    m.get? k = some a ↔ (k, a) ∈ m.pairs := lookup_eq_some_iff m.sorted

theorem get?_mapValues (m : NameMap α) (f : String → α → β) (k : String) :
    (m.mapValues f).get? k = (m.get? k).map (f k) := by
  obtain ⟨l, _⟩ := m
  induction l with
  | nil => rfl
  | cons p rest ih =>
    have := ih (List.pairwise_cons.1 ‹_›).2
    simp only [get?, mapValues, List.map_cons, lookup_cons] at this ⊢
    split
    · rename_i h
      subst h
      rfl
    · exact this

theorem ext_get? {m n : NameMap α} (h : ∀ k, m.get? k = n.get? k) : m = n :=
  ext (eq_of_lookup m.sorted n.sorted h)

/-- What is bound is mapped like the other values. -/
theorem mapValues_insert (m : NameMap α) (f : String → α → β) (k : String) (a : α) :
    (m.insert k a).mapValues f = (m.mapValues f).insert k (f k a) := by
  refine ext_get? fun k' => ?_
  rw [get?_mapValues, get?_insert, get?_insert, get?_mapValues]
  split
  · rename_i h
    rw [h]
    rfl
  · rfl

theorem contains_iff {m : NameMap α} {k : String} :
    m.contains k = true ↔ ∃ a, m.get? k = some a := Option.isSome_iff_exists

/-! ## Changes that make no difference -/

/-- Of two bindings of one name the second counts. -/
theorem insert_insert (m : NameMap α) (k : String) (a b : α) :
    (m.insert k a).insert k b = m.insert k b := by
  refine ext_get? fun k' => ?_
  simp only [get?_insert]
  split <;> rfl

/-- A binding that is there already makes no difference. -/
theorem insert_of_get? {m : NameMap α} {k : String} {a : α} (h : m.get? k = some a) :
    m.insert k a = m := by
  refine ext_get? fun k' => ?_
  rw [get?_insert]
  split
  · rename_i hname
    rw [hname, h]
  · rfl

/-- Nor does the removal of one that is not. -/
theorem erase_of_get? {m : NameMap α} {k : String} (h : m.get? k = none) : m.erase k = m := by
  refine ext_get? fun k' => ?_
  rw [get?_erase]
  split
  · rename_i hname
    rw [hname, h]
  · rfl

/-! ## Names -/

/-- The names of a map are distinct and in order. -/
theorem keys_pairwise (m : NameMap α) : m.keys.Pairwise (· < ·) :=
  List.pairwise_map.2 m.sorted

end OsdMigration.NameMap
