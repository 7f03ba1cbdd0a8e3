import OsdMigration.Cluster.Object.Codec
import OsdMigration.Cluster.Patches
import OsdMigration.MiniCluster.Serve
import OsdMigration.NameMap.Lemmas

set_option autoImplicit false

/-! # What a patch of the scale changes

A deployment is patched as JSON: it is written, one member is replaced, and it is read again. If
all this succeeds, the deployment asks for the new number of pods, and it knows and makes them by
the same labels as before (`patched_scale`).
-/

namespace OsdMigration

namespace NameMap

universe u

variable {α : Type u}

theorem get?_foldl_insert (l : List (String × α)) (m : NameMap α) (k : String) :
    (l.foldl (fun m p => m.insert p.1 p.2) m).get? k = (l.reverse.lookup k).or (m.get? k) := by
  induction l generalizing m with
  | nil => rfl
  | cons p l ih =>
      rw [List.foldl_cons, ih, List.reverse_cons, List.lookup_append, get?_insert, lookup_cons,
        Option.or_assoc]
      congr 1
      split <;> rfl

/-- Of a repeated name the last binding counts. -/
theorem get?_ofList (l : List (String × α)) (k : String) :
    (ofList l).get? k = l.reverse.lookup k := by
  rw [ofList, get?_foldl_insert]
  exact Option.or_none

theorem get?_pairs_reverse (m : NameMap α) (k : String) : m.pairs.reverse.lookup k = m.get? k := by
  obtain ⟨l, hl⟩ := m
  induction l with
  | nil => rfl
  | cons p l ih =>
      have hrest := ih (List.pairwise_cons.1 hl).2
      simp only [get?] at hrest ⊢
      rw [List.reverse_cons, List.lookup_append, hrest, lookup_cons, lookup_cons]
      by_cases hk : k = p.1
      · rw [hk, lookup_eq_none_of_lt (List.pairwise_cons.1 hl).1]
        rfl
      · simp [hk]

theorem ofList_pairs (m : NameMap α) : ofList m.pairs = m :=
  ext_get? fun k => by rw [get?_ofList, get?_pairs_reverse]

theorem filter_pairs (m : NameMap α) (k : String) :
    m.pairs.filter (fun p => p.1 = k) = (m.get? k).toList.map fun a => (k, a) := by
  obtain ⟨l, hl⟩ := m
  induction l with
  | nil => rfl
  | cons p l ih =>
      have hrest := ih (List.pairwise_cons.1 hl).2
      simp only [get?] at hrest ⊢
      rw [lookup_cons]
      by_cases hk : k = p.1
      · rw [List.filter_cons_of_pos (by simp [hk]), hrest, if_pos hk, hk,
          lookup_eq_none_of_lt (List.pairwise_cons.1 hl).1]
        rfl
      · rw [List.filter_cons_of_neg (by simp [Ne.symm hk]), hrest, if_neg hk]

end NameMap

namespace Json

/-- In an object without repetitions a member is looked up. -/
theorem lastOf?_pairs {α : Type} (read : Json → Option α) (m : NameMap Json) (name : String) :
    lastOf? read m.pairs name = (m.get? name).elim (some none) (nullable? read) := by
  rw [lastOf?, NameMap.filter_pairs]
  cases m.get? name with
  | none => rfl
  | some j =>
      cases hj : nullable? read j with
      | none => simp [hj]
      | some a => simp [hj]

theorem Shape.names_readFields? {fields : List (String × Shape)}
    {members kept : List (String × Json)} (h : readFields? fields members = some kept) :
    ∀ m ∈ kept, m.1 ∈ fields.map Prod.fst := by
  induction fields generalizing kept with
  | nil =>
      simp only [readFields?, Option.some.injEq] at h
      simp [← h]
  | cons field fields ih =>
      obtain ⟨name, shape⟩ := field
      simp only [readFields?, Option.bind_eq_bind, Option.bind_eq_some_iff, Option.pure_def,
        Option.some.injEq] at h
      obtain ⟨value, _, others, ho, rfl⟩ := h
      intro m hm
      rcases List.mem_append.1 hm with hm | hm
      · obtain ⟨j, _, rfl⟩ := Option.map_eq_some_iff.1 (Option.mem_toList.1 hm)
        exact List.mem_cons_self
      · exact List.mem_cons_of_mem _ (ih ho m hm)

/-- Only members of the given fields are carried along. -/
theorem Rest.lookup_eq_none {fields : List (String × Shape)} (r : Rest fields) {name : String}
    (h : name ∉ fields.map Prod.fst) : r.members.reverse.lookup name = none := by
  refine List.lookup_eq_none_iff.2 fun m hm => ?_
  refine bne_iff_ne.2 fun he => h ?_
  rw [he]
  exact Shape.names_readFields? r.normal m (List.mem_reverse.1 hm)

end Json

namespace Cluster

open Json (Rest)

theorem labels?_labelsJson (labels : Labels) : labels? (labelsJson labels) = some labels := by
  have hm : (labels.pairs.map fun p => (p.1, Json.str p.2)).mapM
      (fun m => (Json.text? m.2).map fun a => (m.1, a)) = some labels.pairs := by
    induction labels.pairs with
    | nil => rfl
    | cons p l ih =>
        rw [List.map_cons, List.mapM_cons, ih]
        rfl
  rw [labels?, labelsJson, Json.map?, hm, Option.map_some, NameMap.ofList_pairs]

/-- A member of an object that is written only if it is given is read only if it is. -/
theorem read_written {α : Type} {read : Json → Option α} {write : α → Json} {a : Option α}
    (hr : ∀ a, Json.nullable? read (write a) = some (some a)) :
    (a.map write).elim (some none) (Json.nullable? read) = some a := by
  cases a with
  | none => rfl
  | some a => exact hr a

theorem nullable?_labelsJson (labels : Labels) :
    Json.nullable? labels? (labelsJson labels) = some (some labels) := by
  have h := labels?_labelsJson labels
  unfold labelsJson at h ⊢
  rw [Json.nullable?, h]
  · rfl
  · nofun

theorem lookup_written_self {α : Type} (name : String) (write : α → Json) (a : Option α) :
    (written name write a).reverse.lookup name = a.map write := by
  cases a <;> simp [written]

theorem lookup_written_ne {α : Type} {name other : String} (write : α → Json) (a : Option α)
    (h : name ≠ other) : (written other write a).reverse.lookup name = none := by
  cases a with
  | none => rfl
  | some a => simp [written, h]

theorem Ownership.labels_ofJson? {o o' : Ownership} (h : ofJson? o.toJson = some o') :
    o'.labels = o.labels := by
  simp only [ofJson?, toJson, object, members?, Option.bind_eq_bind, Option.bind_some,
    Option.bind_eq_some_iff, Option.pure_def, Option.some.injEq, Json.lastOf?_pairs,
    NameMap.get?_ofList, List.reverse_append, List.lookup_append, lookup_written_self] at h
  obtain ⟨labels, hl, rest, _, rfl⟩ := h
  rw [o.rest.lookup_eq_none (by decide), Option.none_or, read_written nullable?_labelsJson] at hl
  exact (Option.some.inj hl).symm

theorem Metadata.labels_ofJson? {m m' : Metadata} (h : ofJson? m.toJson = some m') :
    m'.labels = m.labels := by
  simp only [ofJson?, toJson, object, members?, Option.bind_eq_bind, Option.bind_some,
    Option.bind_eq_some_iff, Option.pure_def, Option.some.injEq, Json.lastOf?_pairs] at h
  obtain ⟨_, _, _, _, labels, hl, rest, _, rfl⟩ := h
  rw [NameMap.get?_ofList, List.reverse_append, List.lookup_append, List.reverse_append,
    List.lookup_append, lookup_written_self, List.reverse_append, List.lookup_append,
    lookup_written_ne _ _ (by decide), lookup_written_ne _ _ (by decide),
    m.rest.lookup_eq_none (by decide), Option.none_or, Option.or_none, Option.or_none,
    read_written nullable?_labelsJson] at hl
  exact (Option.some.inj hl).symm

/-- The labels of the pods that a template makes. -/
def Template.labels (t : Template) : Option Labels := t.metadata.bind Metadata.labels

theorem Template.labels_ofJson? {t t' : Template} (h : ofJson? t.toJson = some t') :
    t'.labels = t.labels := by
  simp only [ofJson?, toJson, object, members?, Option.bind_eq_bind, Option.bind_some,
    Option.bind_eq_some_iff, Option.pure_def, Option.some.injEq, Json.lastOf?_pairs] at h
  obtain ⟨metadata, hm, spec, _, rfl⟩ := h
  rw [NameMap.get?_ofList, List.reverse_append, List.lookup_append, lookup_written_self,
    lookup_written_ne _ _ (by decide), Option.none_or] at hm
  cases ht : t.metadata with
  | none =>
      rw [ht] at hm
      obtain rfl : none = metadata := Option.some.inj hm
      simp [Template.labels, ht]
  | some m =>
      rw [ht] at hm
      have hm : (Metadata.ofJson? m.toJson).map some = some metadata := hm
      obtain ⟨m', hm', rfl⟩ := Option.map_eq_some_iff.1 hm
      simp [Template.labels, ht, Metadata.labels_ofJson? hm']

/-! ## The patch -/

/-- What a patch of the scale leaves as it is, and what it sets. -/
structure DeploymentSpec.Rescaled (n : Int) (before after : DeploymentSpec) : Prop where
  replicas : after.replicas = some n
  owned : after.owned.labels = before.owned.labels
  template : after.template.labels = before.template.labels

theorem int32?_ofInt {n m : Int} (h : Json.int32? (Json.ofInt n) = some m) : m = n := by
  simp only [Json.int32?, Json.intIn?, Json.int?, Json.ofInt, Option.bind_some] at h
  split at h
  · exact (Option.some.inj h).symm
  · cases h

theorem DeploymentSpec.rescaled_ofJson? {n : Int} {spec spec' : DeploymentSpec}
    {members : List (String × Json)} (hm : spec.toJson = .obj members)
    (h : ofJson? (.obj (NameMap.put "replicas" (.ofInt n) members)) = some spec') :
    Rescaled n spec spec' := by
  obtain rfl : _ = members := Json.obj.inj hm
  have hput : ∀ m : NameMap Json, NameMap.put "replicas" (Json.ofInt n) m.pairs =
      (m.insert "replicas" (Json.ofInt n)).pairs := fun _ => rfl
  simp only [ofJson?, members?, Option.bind_eq_bind, Option.bind_some, hput, defaulted?,
    Option.bind_eq_some_iff, Option.pure_def, Option.some.injEq, Option.map_eq_some_iff,
    Json.lastOf?_pairs] at h
  obtain ⟨replicas, hr, owned, ⟨owned?, ho, rfl⟩, template, ⟨template?, ht, rfl⟩, rest, _, rfl⟩ := h
  rw [NameMap.get?_insert_self] at hr
  rw [NameMap.get?_insert_of_ne _ _ (by decide), NameMap.get?_ofList, List.reverse_append,
    List.lookup_append, List.reverse_append, List.lookup_append,
    spec.rest.lookup_eq_none (by decide), Option.none_or] at ho ht
  have hr : (Json.int32? (Json.ofInt n)).map some = some replicas := hr
  have ho : (Ownership.ofJson? spec.owned.toJson).map some = some owned? := ho
  have ht : (Template.ofJson? spec.template.toJson).map some = some template? := ht
  obtain ⟨m, hm, rfl⟩ := Option.map_eq_some_iff.1 hr
  obtain ⟨o, ho', rfl⟩ := Option.map_eq_some_iff.1 ho
  obtain ⟨t, ht', rfl⟩ := Option.map_eq_some_iff.1 ht
  exact ⟨congrArg some (int32?_ofInt hm), Ownership.labels_ofJson? ho',
    Template.labels_ofJson? ht'⟩

theorem child?_object (members : List (String × Json)) (name : String) :
    (object members).child? name = members.reverse.lookup name :=
  NameMap.get?_ofList members name

theorem setChild_object (members : List (String × Json)) (name : String) (j : Json) :
    (object members).setChild name j = .obj ((NameMap.ofList members).insert name j).pairs := rfl

/-- The patch replaces one member of one member. -/
theorem ofJson?_of_patched {n : Int} {d d' : Deployment}
    (h : MiniCluster.patched d (scalePatch n) = .ok d') :
    ∃ spec, d.spec = some spec ∧ Deployment.ofJson?
      (d.toJson.setChild "spec" (spec.toJson.setChild "replicas" (.ofInt n))) = some d' := by
  have hp : Json.Pointer.ofText? "/spec/replicas" = some ["spec", "replicas"] := by decide +kernel
  have hchild : d.toJson.child? "spec" = d.spec.map DeploymentSpec.toJson := by
    rw [Deployment.toJson, child?_object, List.reverse_append, List.lookup_append,
      lookup_written_ne _ _ (by decide), List.reverse_append, List.lookup_append,
      lookup_written_self, Option.none_or]
    exact Option.or_none
  unfold MiniCluster.patched at h
  simp only [Json.Patch.apply, scalePatch, Json.Patch.applyFrom, Json.Operation.apply, hp,
    Option.bind_some, Json.modify?, hchild] at h
  cases hs : d.spec with
  | none =>
      rw [hs] at h
      cases h
  | some spec =>
      rw [hs] at h
      simp only [Option.map_some, Option.bind_some, Option.bind_eq_bind] at h
      cases hr : spec.toJson.child? "replicas" with
      | none =>
          rw [hr] at h
          cases h
      | some replicas =>
          rw [hr] at h
          refine ⟨spec, rfl, ?_⟩
          simp only [Option.bind_some, Option.pure_def, Option.elim_some] at h
          split at h
          · rename_i read hread
            rw [hread, Except.ok.inj h]
          · cases h

/-- A deployment that a patch of its scale was applied to. -/
theorem patched_scale {n : Int} {d d' : Deployment}
    (h : MiniCluster.patched d (scalePatch n) = .ok d') :
    ∃ spec spec', d.spec = some spec ∧ d'.spec = some spec' ∧ spec.Rescaled n spec' := by
  obtain ⟨spec, hs, h⟩ := ofJson?_of_patched h
  have hobj : ∃ members, spec.toJson = .obj members := ⟨_, rfl⟩
  obtain ⟨members, hm⟩ := hobj
  -- read back member by member, the replaced one among them
  rw [hm, Deployment.toJson, setChild_object, Deployment.ofJson?] at h
  simp only [members?, Option.bind_eq_bind, Option.bind_some, Json.lastOf?_pairs,
    NameMap.get?_insert_self] at h
  split at h
  · cases h
  · simp only [Option.bind_eq_some_iff, Option.pure_def, Option.some.injEq] at h
    obtain ⟨_, _, after, ha, _, _, rfl⟩ := h
    have ha : (DeploymentSpec.ofJson?
        (.obj (NameMap.put "replicas" (.ofInt n) members))).map some = some after := ha
    obtain ⟨spec', hspec, rfl⟩ := Option.map_eq_some_iff.1 ha
    exact ⟨spec, spec', hs, rfl, DeploymentSpec.rescaled_ofJson? hm hspec⟩

end Cluster

end OsdMigration
