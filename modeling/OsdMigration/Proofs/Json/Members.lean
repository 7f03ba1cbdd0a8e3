import OsdMigration.Json.Patch
import OsdMigration.Proofs.Cluster.Scaling

set_option autoImplicit false

/-! # Objects as maps

The canonical form of an object is a map of its members (`exists_map_of_canonical`), and so pointers
that go by names lead from map to map. Looking at a step is `get?`, changing what is there is
`insert`, and taking it out is `erase`. What a pointer leads to can be changed exactly if it leads
somewhere (`modify?_isSome`).
-/

namespace OsdMigration.Json

/-- The object with the members of a map. -/
def ofMap (m : NameMap Json) : Json := .obj m.pairs

section

variable (m : NameMap Json) (name : String)

@[simp] theorem child?_ofMap : (ofMap m).child? name = m.get? name := rfl

@[simp] theorem get?_ofMap : (ofMap m).get? name = m.get? name := NameMap.get?_pairs_reverse m name

@[simp] theorem setChild_ofMap (j : Json) :
    (ofMap m).setChild name j = ofMap (m.insert name j) := rfl

@[simp] theorem takeFrom?_ofMap : Operation.takeFrom? name (ofMap m) =
    if (m.get? name).isSome then some (ofMap (m.erase name)) else none := rfl

/-- A pointer into an object with another member leads into the member, or where it led before. -/
theorem lookup?_insert (j : Json) (step : String) (rest : Pointer) :
    (ofMap (m.insert name j)).lookup? (step :: rest) =
      if step = name then j.lookup? rest else (ofMap m).lookup? (step :: rest) := by
  simp only [lookup?, child?_ofMap, NameMap.get?_insert]
  split <;> rfl

end

/-! ## Canonical values -/

theorem mem_canonicalMembers {members : List (String × Json)} {p : String × Json}
    (h : p ∈ canonicalMembers members) : ∃ j, p.2 = canonical j := by
  induction members with
  | nil => cases h
  | cons member members ih =>
      rcases List.mem_cons.1 h with rfl | h
      · exact ⟨member.2, rfl⟩
      · exact ih h

/-- An object in canonical form is a map, and its members are in canonical form. -/
theorem exists_map_of_canonical {j : Json} {members : List (String × Json)}
    (h : j.canonical = .obj members) : ∃ m : NameMap Json, .obj members = ofMap m ∧
      ∀ name k, m.get? name = some k → ∃ k', k = canonical k' := by
  cases j with
  | obj written =>
      rw [canonical, obj.injEq] at h
      refine ⟨.ofList (canonicalMembers written), by rw [ofMap, h], fun name k hk => ?_⟩
      rw [NameMap.get?_ofList] at hk
      obtain ⟨front, back, hsplit, _⟩ := List.lookup_eq_some_iff.1 hk
      have hmem : (name, k) ∈ (canonicalMembers written).reverse := by
        rw [hsplit]
        exact List.mem_append_right _ List.mem_cons_self
      exact mem_canonicalMembers (List.mem_reverse.1 hmem)
  | _ => cases h

/-- A step that is not the place of an item leads out of an object only. -/
theorem exists_map_of_child? {j k : Json} {name : String} (hname : Pointer.index? name = none)
    (h : j.canonical.child? name = some k) : ∃ m : NameMap Json, j.canonical = ofMap m ∧
      m.get? name = some k ∧ ∃ k', k = canonical k' := by
  cases hj : j.canonical with
  | obj members =>
      obtain ⟨m, hm, hcanonical⟩ := exists_map_of_canonical hj
      rw [hj, hm, child?_ofMap] at h
      exact ⟨m, hm, h, hcanonical name k h⟩
  | arr items =>
      rw [hj, child?, hname] at h
      cases h
  | _ =>
      rw [hj] at h
      cases h

/-! ## Changes that cannot be made -/

/-- What a pointer leads to can be changed exactly if it leads somewhere. -/
theorem modify?_isSome {f : Json → Option Json} (hf : ∀ j, (f j).isSome) (j : Json) (p : Pointer) :
    (j.modify? f p).isSome = (j.lookup? p).isSome := by
  induction p generalizing j with
  | nil => simp [modify?, lookup?, hf]
  | cons step rest ih =>
      rw [modify?, lookup?]
      cases j.child? step with
      | none => rfl
      | some k =>
          have hrest := ih k
          cases hk : k.modify? f rest with
          | none => simpa [hk] using hrest
          | some k' => simpa [hk] using hrest

end OsdMigration.Json
