import Mathlib.Data.List.Forall2
import OsdMigration.Json.Record

set_option autoImplicit false

/-! # Where the parts of a record stand

A record is written as an object or as an array of its fields. `Json.At` says in either form which
values stand at a field, and `Json.Along` which ones are found from record to record. A reader of
records goes by this: where nothing stands it takes its default, and where something stands there is
nothing else, and that is what it reads (`Given`). Each reader of a single value reads from one
value only, the one in which it is written.
-/

namespace OsdMigration.Json

/-! ## Single values -/

section

variable {v : Json}

theorem text?_eq_some_iff {s : String} : v.text? = some s ↔ v = .str s := by
  cases v <;> simp [text?]

theorem bool?_eq_some_iff {b : Bool} : v.bool? = some b ↔ v = .bool b := by
  cases v <;> simp [bool?]

theorem intIn?_eq_some_iff {low high i : Int} :
    v.intIn? low high = some i ↔ v = .ofInt i ∧ low ≤ i ∧ i ≤ high := by
  have hint : v.int? = some i ↔ v = .ofInt i := by
    cases v with
    | num n => cases n <;> simp [int?, ofInt]
    | _ => simp [int?, ofInt]
  rw [← hint, intIn?, Option.bind_eq_some_iff]
  constructor
  · rintro ⟨k, hk, hrange⟩
    split at hrange
    · cases hrange
      exact ⟨hk, ‹_›⟩
    · cases hrange
  · rintro ⟨hi, hrange⟩
    exact ⟨i, hi, if_pos hrange⟩

theorem uint32?_eq_some_iff {n : UInt32} : v.uint32? = some n ↔ v = .ofNat n.toNat := by
  have hn : n.toNat < 4294967296 := n.toNat_lt
  simp only [uint32?, Option.map_eq_some_iff, intIn?_eq_some_iff]
  constructor
  · rintro ⟨i, ⟨rfl, hlow, hhigh⟩, rfl⟩
    rw [UInt32.toNat_ofNat_of_lt' (show i.toNat < 4294967296 by omega), ofNat,
      Int.toNat_of_nonneg hlow]
    rfl
  · rintro rfl
    exact ⟨n.toNat, ⟨rfl, by omega, by omega⟩, UInt32.ofNat_toNat⟩

theorem uint64?_eq_some_iff {n : UInt64} : v.uint64? = some n ↔ v = .ofNat n.toNat := by
  have hn : n.toNat < 18446744073709551616 := n.toNat_lt
  simp only [uint64?, Option.map_eq_some_iff, intIn?_eq_some_iff]
  constructor
  · rintro ⟨i, ⟨rfl, hlow, hhigh⟩, rfl⟩
    rw [UInt64.toNat_ofNat_of_lt' (show i.toNat < 18446744073709551616 by omega), ofNat,
      Int.toNat_of_nonneg hlow]
    rfl
  · rintro rfl
    exact ⟨n.toNat, ⟨rfl, by omega, by omega⟩, UInt64.ofNat_toNat⟩

end

/-! ## Places -/

/-- A field of a record that has these fields. -/
structure Field where
  fields : List String
  name : String

/-- A value stands at a field of a record: as a member of that name, or as the item in the place of
the field. -/
inductive At (f : Field) : Json → Json → Prop
  | member {members : List (String × Json)} {v : Json} (mem : (f.name, v) ∈ members) :
      At f (.obj members) v
  | item {items : List Json} {i : Nat} {v : Json} (place : f.fields[i]? = some f.name)
      (item : items[i]? = some v) : At f (.arr items) v

/-- A value is found along a path of fields, each in the record before. -/
inductive Along : List Field → Json → Json → Prop
  | here {j : Json} : Along [] j j
  | field {f : Field} {path : List Field} {j k v : Json} (there : At f j k)
      (rest : Along path k v) : Along (f :: path) j v

/-! ## What is read of it -/

/-- What a place gives to a reader that has a default: what it reads of the one value that stands
there, or the default if none does. -/
inductive Given {α : Type} (Stands : Json → Prop) (Reads : Json → α → Prop) (default : α) : α → Prop
  | said {v : Json} {a : α} (stands : Stands v) (sole : ∀ w, Stands w → w = v) (reads : Reads v a) :
      Given Stands Reads default a
  | absent (nothing : ∀ v, ¬ Stands v) : Given Stands Reads default default

section

variable {α β : Type} {Stands : Json → Prop} {Reads : Json → α → Prop} {default a : α}

/-- What is true of whatever is read and of the default. -/
theorem Given.elim {P : α → Prop} (h : Given Stands Reads default a)
    (reads : ∀ v a, Reads v a → P a) (hdefault : P default) : P a := by
  cases h with
  | said _ _ hr => exact reads _ _ hr
  | absent _ => exact hdefault

/-- A condition on whatever stands there is one on what is given. -/
theorem Given.forall_iff {P : Json → Prop} {Q : α → Prop} (h : Given Stands Reads default a)
    (reads : ∀ v a, Reads v a → (P v ↔ Q a)) (hdefault : Q default) :
    (∀ v, Stands v → P v) ↔ Q a := by
  cases h with
  | @said v _ stands sole hr =>
      rw [← reads v a hr]
      exact ⟨fun hall => hall v stands, fun hv w hw => sole w hw ▸ hv⟩
  | absent nothing => exact iff_of_true (fun v hv => absurd hv (nothing v)) hdefault

/-- The one value from which something is read that is not the default stands there if and only if
that is given. -/
theorem Given.stands_iff {v₀ : Json} {a₀ : α} (h : Given Stands Reads default a)
    (reads : ∀ v a, Reads v a → (v₀ = v ↔ a = a₀)) (hdefault : default ≠ a₀) :
    Stands v₀ ↔ a = a₀ := by
  cases h with
  | said stands sole hr =>
      rw [← reads _ _ hr]
      exact ⟨sole v₀, fun hv => hv ▸ stands⟩
  | absent nothing => exact iff_of_false (nothing v₀) hdefault

/-- Only one thing is given if only one can be read of a value. -/
theorem Given.unique {b : α} (h : Given Stands Reads default a) (h' : Given Stands Reads default b)
    (reads : ∀ v a b, Reads v a → Reads v b → a = b) : a = b := by
  cases h with
  | said stands sole hr =>
      cases h' with
      | said stands' _ hr' => exact reads _ _ _ hr (sole _ stands' ▸ hr')
      | absent nothing => exact absurd stands (nothing _)
  | absent nothing =>
      cases h' with
      | said stands' _ _ => exact absurd stands' (nothing _)
      | absent _ => rfl

/-- What is made of what is given. -/
theorem Given.map {Reads' : Json → β → Prop} {default' : β} (h : Given Stands Reads default a)
    (f : α → β) (reads : ∀ v a, Reads v a → Reads' v (f a)) (hdefault : f default = default') :
    Given Stands Reads' default' (f a) := by
  cases h with
  | said stands sole hr => exact .said stands sole (reads _ _ hr)
  | absent nothing =>
      rw [hdefault]
      exact .absent nothing

/-- What is given by a record that is given itself. -/
theorem Given.field {f : Field} {path : List Field} {j : Json} {Reads' : Json → β → Prop}
    {default' : β} (h : Given (At f j) Reads default a) (part : α → β)
    (parts : ∀ k a, Reads k a → Given (Along path k) Reads' default' (part a))
    (hdefault : part default = default') :
    Given (Along (f :: path) j) Reads' default' (part a) := by
  cases h with
  | @said k _ stands sole reads =>
      have inside : ∀ v, Along (f :: path) j v → Along path k v := by
        rintro v (_ | ⟨there, rest⟩)
        rwa [← sole _ there]
      have hp := parts k a reads
      revert hp
      generalize part a = b
      rintro (⟨stands', sole', reads'⟩ | nothing)
      · exact .said (.field stands stands') (fun w hw => sole' w (inside w hw)) reads'
      · exact .absent fun v hv => nothing v (inside v hv)
  | absent nothing =>
      rw [hdefault]
      refine .absent ?_
      rintro v (_ | ⟨there, _⟩)
      exact nothing _ there

/-- What stands at a field of a record that is given itself. -/
theorem Given.last {f : Field} {j : Json} (h : Given (At f j) Reads default a) :
    Given (Along [f] j) Reads default a := by
  have hiff : ∀ v, Along [f] j v ↔ At f j v := fun v =>
    ⟨fun | .field there .here => there, fun there => .field there .here⟩
  simpa only [funext fun v => propext (hiff v)] using h

end

/-! ## Records -/

/-- What a record has of a field: the value that stands there, if there is one. -/
def Slot (f : Field) (j : Json) (slot : Option Json) : Prop := ∀ v, At f j v ↔ slot = some v

theorem count_name (members : List (String × Json)) (name : String) :
    (members.map Prod.fst).count name = (members.filter fun m => m.1 = name).length := by
  rw [List.count, List.countP_map, List.countP_eq_length_filter]
  congr

/-- Members can be read at a name if and only if they have it once at most. -/
theorem single?_isSome_iff {members : List (String × Json)} {name : String} :
    (single? members name).isSome ↔ (members.map Prod.fst).count name ≤ 1 := by
  rw [count_name, single?]
  generalize (members.filter fun m => m.1 = name) = found
  match found with
  | [] => simp
  | [_] => simp
  | _ :: _ :: _ => simp

/-- What is read at a name is the value of the one member of that name. -/
theorem mem_iff_of_single? {members : List (String × Json)} {name : String} {slot : Option Json}
    (h : single? members name = some slot) (v : Json) : (name, v) ∈ members ↔ slot = some v := by
  have hmem : (name, v) ∈ members ↔ (name, v) ∈ members.filter fun m => m.1 = name := by
    simp [List.mem_filter]
  have hname : ∀ m ∈ members.filter fun m => m.1 = name, m.1 = name := fun m hm => by
    simpa using (List.mem_filter.1 hm).2
  rw [hmem]
  unfold single? at h
  split at h
  · rename_i hnone
    cases h
    simp [hnone]
  · rename_i m hone
    cases h
    obtain rfl : m.1 = name := hname m (hone ▸ List.mem_singleton_self m)
    rw [hone, List.mem_singleton, Option.some.injEq]
    exact ⟨fun h => (congrArg Prod.snd h).symm, fun h => h ▸ rfl⟩
  · cases h

theorem slot_of_single? {members : List (String × Json)} {f : Field} {slot : Option Json}
    (h : single? members f.name = some slot) : Slot f (.obj members) slot := fun v =>
  Iff.trans ⟨fun | .member mem => mem, .member⟩ (mem_iff_of_single? h v)

/-- An object is read at all its fields or not at all. -/
theorem record?_obj_eq_some_iff {fields : List String} {members : List (String × Json)}
    {slots : List (Option Json)} : record? fields (.obj members) = some slots ↔
      (∀ name ∈ fields, (single? members name).isSome) ∧
        slots = fields.map fun name => (single? members name).join := by
  rw [record?]
  induction fields generalizing slots with
  | nil => simp
  | cons name fields ih =>
      simp only [List.mapM_cons, Option.bind_eq_bind, Option.bind_eq_some_iff, ih, Option.pure_def,
        Option.some.injEq, List.forall_mem_cons, List.map_cons]
      cases single? members name with
      | none => simp
      | some slot => simpa using fun _ => eq_comm

theorem forall₂_of_mapM {α β : Type} {read : α → Option β} {xs : List α} {ys : List β}
    (h : xs.mapM read = some ys) : List.Forall₂ (fun x y => read x = some y) xs ys := by
  induction xs generalizing ys with
  | nil =>
      cases h
      exact .nil
  | cons x xs ih =>
      simp only [List.mapM_cons, Option.bind_eq_bind, Option.bind_eq_some_iff, Option.pure_def,
        Option.some.injEq] at h
      obtain ⟨y, hy, rest, hrest, rfl⟩ := h
      exact .cons hy (ih hrest)

/-- The slots of an array: its items, and then nothing. -/
theorem getElem_slots {items : List Json} {n i : Nat}
    (h : i < (items.map some ++ List.replicate n none).length) :
    (items.map some ++ List.replicate n none)[i] = items[i]? := by
  by_cases hi : i < items.length
  · rw [List.getElem_append_left (by simpa using hi), List.getElem_map,
      List.getElem?_eq_getElem hi]
  · rw [List.getElem_append_right (by simpa using Nat.le_of_not_lt hi), List.getElem_replicate,
      List.getElem?_eq_none (Nat.le_of_not_lt hi)]

/-- What is read of a record is what stands at its fields. -/
theorem slots_of_record? {fields : List String} (distinct : fields.Nodup) {j : Json}
    {slots : List (Option Json)} (h : record? fields j = some slots) :
    List.Forall₂ (fun name slot => Slot ⟨fields, name⟩ j slot) fields slots := by
  unfold record? at h
  split at h
  · exact (forall₂_of_mapM h).imp fun name slot hs => slot_of_single? hs
  · rename_i items
    split at h
    · rename_i hlen
      cases h
      refine List.forall₂_iff_get.2 ⟨?_, fun i hi hslot v => ?_⟩
      · rw [List.length_append, List.length_map, List.length_replicate]
        omega
      · -- the place of a field is known by its name
        simp only [List.get_eq_getElem, getElem_slots]
        constructor
        · rintro (_ | ⟨place, item⟩)
          rwa [(List.getElem?_inj hi distinct).1
            ((List.getElem?_eq_getElem hi).trans place.symm)]
        · exact .item (List.getElem?_eq_getElem hi)
    · cases h
  · cases h

theorem given_of_field? {α : Type} {f : Field} {j : Json} {slot : Option Json}
    {read : Json → Option α} {default a : α} (hslot : Slot f j slot)
    (h : field? slot read default = some a) :
    Given (At f j) (fun v a => read v = some a) default a := by
  cases slot with
  | none =>
      cases h
      exact .absent fun v hv => nomatch (hslot v).1 hv
  | some v => exact .said ((hslot v).2 rfl) (fun w hw => (Option.some.inj ((hslot w).1 hw)).symm) h

end OsdMigration.Json
