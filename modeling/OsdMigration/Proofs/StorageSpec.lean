import OsdMigration.Ceph.StorageSpec
import OsdMigration.Json.Printer
import OsdMigration.Proofs.Json.Record
import OsdMigration.Proofs.Json.RoundTrip

set_option autoImplicit false

/-! # The normal form of a storage selection

A selection has many texts: each part may be left out or null, members stand in any order and beside
others, records may be arrays. `has_normal_form` says that a text which is read and written again
has none of this left, and that nothing that it says is lost.
-/

namespace OsdMigration

/-- A value without nulls whose objects have members of these names only. -/
inductive Json.Plain (names : List String) : Json → Prop
  | bool (b : Bool) : Plain names (.bool b)
  | num (n : Json.Number) : Plain names (.num n)
  | str (s : String) : Plain names (.str s)
  | arr {items : List Json} (plain : ∀ j ∈ items, Plain names j) : Plain names (.arr items)
  | obj {members : List (String × Json)} (named : ∀ m ∈ members, m.1 ∈ names)
      (plain : ∀ m ∈ members, Plain names m.2) : Plain names (.obj members)

namespace Ceph.StorageSpec

open Json (Along At Field Given bool? list? nullable?)

/-! ## What a document says -/

/-- The place of the selection in a specification. -/
def storage : Field := ⟨["storage"], "storage"⟩

/-- A part of the selection. -/
def part (name : String) : Field := ⟨["useAllDevices", "useAllNodes", "directories"], name⟩

/-- The place of the path in a directory. -/
def path : Field := ⟨["path"], "path"⟩

/-- The names of members in a written specification. -/
def names : List String := ["storage", "useAllDevices", "useAllNodes", "directories", "path"]

/-- What a value says of a thing that need not be there: null says that it is not. -/
inductive Nullable {α : Type} (Reads : Json → α → Prop) : Json → Option α → Prop
  | null : Nullable Reads .null none
  | value {v : Json} {a : α} (reads : Reads v a) : Nullable Reads v (some a)

/-- A directory of the given path, whatever else is known of it. -/
def IsDirectory (v : Json) (p : String) : Prop := ∀ w, At path v w ↔ w = .str p

/-- A list of directories. -/
inductive AreDirectories : Json → List String → Prop
  | arr {items : List Json} {ps : List String} (each : List.Forall₂ IsDirectory items ps) :
      AreDirectories (.arr items) ps

/-- A document says this of the parts of a selection, and nothing of those that are left out. -/
structure Says (j : Json) (s : StorageSpec) : Prop where
  devices : Given (Along [storage, part "useAllDevices"] j) (Nullable fun v b => v = .bool b) none
    s.allDevices
  nodes : Given (Along [storage, part "useAllNodes"] j) (Nullable fun v b => v = .bool b) none
    s.allNodes
  directories : Given (Along [storage, part "directories"] j) (Nullable AreDirectories) none
    s.directories

/-! ## The law -/

/-- A text that is read and written again. -/
def normalize? (text : String) : Option String := (parse? text).map fun s => s.toJson.render

/-- The normal form of a text: a document without nulls and unknown names that has the same
specification and is written as it is. -/
structure NormalFormOf (text normal : String) : Prop where
  plain : ∃ j, Json.parse? normal = some j ∧ j.Plain names
  same : parse? normal = parse? text
  fixed : normalize? normal = some normal

/-- How specifications stand in documents. -/
structure Codec : Prop where
  /-- What is written is read back. -/
  lossless : ∀ s : StorageSpec, parse? s.toJson.render = some s
  /-- What is read and written again is in normal form. -/
  normal : ∀ t n, normalize? t = some n → NormalFormOf t n
  /-- What is read is what the document says. -/
  faithful : ∀ t s, parse? t = some s → ∃ j, Json.parse? t = some j ∧ Says j s
  /-- The normal form depends on nothing else. -/
  sole : ∀ t t' n n' j j', normalize? t = some n → normalize? t' = some n' →
    Json.parse? t = some j → Json.parse? t' = some j' → (∀ s, Says j s ↔ Says j' s) → n = n'

/-! ## Reading -/

theorem nullable_of_nullable? {α : Type} {read : Json → Option α} {Reads : Json → α → Prop}
    (hread : ∀ v a, read v = some a → Reads v a) {v : Json} {a : Option α}
    (h : nullable? read v = some a) : Nullable Reads v a := by
  unfold nullable? at h
  split at h
  · cases h
    exact .null
  · obtain ⟨a, ha, rfl⟩ := Option.map_eq_some_iff.1 h
    exact .value (hread _ a ha)

theorem isDirectory_of_directory? {v : Json} {p : String} (h : directory? v = some p) :
    IsDirectory v p := by
  obtain ⟨slots, hslots, h⟩ := Option.bind_eq_some_iff.1 h
  have hall := Json.slots_of_record? (by decide) hslots
  split at h
  · obtain ⟨w, rfl, hw⟩ := Option.bind_eq_some_iff.1 h
    obtain rfl := Json.text?_eq_some_iff.1 hw
    have hslot : Json.Slot path v (some (.str p)) := (List.forall₂_cons.1 hall).1
    intro w
    rw [hslot w, Option.some.injEq, eq_comm]
  · cases h

theorem areDirectories_of_list? {v : Json} {ps : List String} (h : list? directory? v = some ps) :
    AreDirectories v ps := by
  unfold list? at h
  split at h
  · exact .arr ((Json.forall₂_of_mapM h).imp fun _ _ => isDirectory_of_directory?)
  · cases h

/-- The parts of a selection are what stands at their places. -/
theorem parts_of_ofStorage? {k : Json} {s : StorageSpec} (h : ofStorage? k = some s) :
    Given (Along [part "useAllDevices"] k) (Nullable fun v b => v = .bool b) none s.allDevices ∧
      Given (Along [part "useAllNodes"] k) (Nullable fun v b => v = .bool b) none s.allNodes ∧
      Given (Along [part "directories"] k) (Nullable AreDirectories) none s.directories := by
  obtain ⟨slots, hslots, h⟩ := Option.bind_eq_some_iff.1 h
  have hall := Json.slots_of_record? (by decide) hslots
  have hflag : ∀ v b, nullable? bool? v = some b → Nullable (fun v b => v = .bool b) v b :=
    fun _ _ => nullable_of_nullable? fun _ _ => Json.bool?_eq_some_iff.1
  have hpaths : ∀ v ps, nullable? (list? directory?) v = some ps → Nullable AreDirectories v ps :=
    fun _ _ => nullable_of_nullable? fun _ _ => areDirectories_of_list?
  split at h
  · simp only [Option.bind_eq_bind, Option.bind_eq_some_iff, Option.pure_def,
      Option.some.injEq] at h
    obtain ⟨devices, hdevices, nodes, hnodes, directories, hdirectories, rfl⟩ := h
    simp only [List.forall₂_cons] at hall
    obtain ⟨sdevices, snodes, sdirectories, _⟩ := hall
    exact ⟨(Json.given_of_field? sdevices hdevices).last.map id hflag rfl,
      (Json.given_of_field? snodes hnodes).last.map id hflag rfl,
      (Json.given_of_field? sdirectories hdirectories).last.map id hpaths rfl⟩
  · cases h

theorem says_of_ofJson? {j : Json} {s : StorageSpec} (h : ofJson? j = some s) : Says j s := by
  obtain ⟨slots, hslots, h⟩ := Option.bind_eq_some_iff.1 h
  have hall := Json.slots_of_record? (by decide) hslots
  split at h
  · have hstorage := Json.given_of_field? (List.forall₂_cons.1 hall).1 h
    constructor
    case devices =>
      exact hstorage.field allDevices (fun k s hs => (parts_of_ofStorage? hs).1) rfl
    case nodes =>
      exact hstorage.field allNodes (fun k s hs => (parts_of_ofStorage? hs).2.1) rfl
    case directories =>
      exact hstorage.field directories (fun k s hs => (parts_of_ofStorage? hs).2.2) rfl
  · cases h

/-! ## One selection for one document -/

theorem Nullable.unique {α : Type} {Reads : Json → α → Prop} {v : Json} {a b : Option α}
    (reads : ∀ v a b, Reads v a → Reads v b → a = b) (null : ∀ a, ¬ Reads .null a)
    (h : Nullable Reads v a) (h' : Nullable Reads v b) : a = b := by
  cases h with
  | null =>
      cases h' with
      | null => rfl
      | value hb => exact absurd hb (null _)
  | value ha =>
      cases h' with
      | null => exact absurd ha (null _)
      | value hb => rw [reads _ _ _ ha hb]

theorem AreDirectories.unique {v : Json} {ps qs : List String} (h : AreDirectories v ps)
    (h' : AreDirectories v qs) : ps = qs := by
  have hone : Relator.RightUnique IsDirectory := fun v p q hp hq =>
    Json.str.inj ((hq _).1 ((hp _).2 rfl))
  cases h with
  | arr hps =>
      cases h' with
      | arr hqs => exact List.right_unique_forall₂' hone hps hqs

/-- A document does not say two things. -/
theorem Says.unique {j : Json} {s s' : StorageSpec} (h : Says j s) (h' : Says j s') : s = s' := by
  have hflag : ∀ v a b, Nullable (fun v b => v = .bool b) v a →
      Nullable (fun v b => v = .bool b) v b → a = b := fun _ _ _ =>
    Nullable.unique (fun _ _ _ ha hb => Json.bool.inj (ha.symm.trans hb)) nofun
  have hpaths : ∀ v a b, Nullable AreDirectories v a → Nullable AreDirectories v b → a = b :=
    fun _ _ _ => Nullable.unique (fun _ _ _ => AreDirectories.unique) nofun
  cases s
  cases s'
  rw [StorageSpec.mk.injEq]
  exact ⟨h.devices.unique h'.devices hflag, h.nodes.unique h'.nodes hflag,
    h.directories.unique h'.directories hpaths⟩

/-! ## Writing -/

theorem forall_mem_given {α : Type} {name : String} {write : α → Json} {a : Option α}
    {P : String × Json → Prop} :
    (∀ m ∈ given name write a, P m) ↔ ∀ x, a = some x → P (name, write x) := by
  cases a <;> simp [given]

theorem plain_toJson (s : StorageSpec) : s.toJson.Plain names := by
  have hdirectory : ∀ p : String, (Json.obj [("path", .str p)]).Plain names := fun p =>
    .obj (by simp [names]) (by simpa using .str p)
  have hdirectories : ∀ ps : List String,
      (Json.arr (ps.map fun p => .obj [("path", .str p)])).Plain names := fun ps =>
    .arr (by simpa using fun p _ => hdirectory p)
  refine .obj (by simp [names]) ?_
  rw [List.forall_mem_singleton]
  constructor
  case named =>
    simp only [List.forall_mem_append, forall_mem_given]
    simp [names]
  case plain =>
    simp only [List.forall_mem_append, forall_mem_given]
    exact ⟨⟨fun b _ => .bool b, fun b _ => .bool b⟩, fun ps _ => hdirectories ps⟩

theorem isExact_toJson (s : StorageSpec) : s.toJson.isExact = true := by
  simp only [toJson, Json.isExact, Json.numbersAre, Json.membersAre_iff, List.forall_mem_singleton,
    List.forall_mem_append, forall_mem_given, Json.itemsAre_iff, List.forall_mem_map, implies_true,
    and_self]

theorem list?_directories (ps : List String) :
    list? directory? (.arr (ps.map fun p => .obj [("path", .str p)])) = some ps := by
  induction ps with
  | nil => rfl
  | cons p ps ih =>
      rw [list?] at ih ⊢
      rw [List.map_cons, List.mapM_cons, ih]
      rfl

theorem ofJson?_toJson (s : StorageSpec) : ofJson? s.toJson = some s := by
  obtain ⟨devices, nodes, directories⟩ := s
  cases directories with
  | none => cases devices <;> cases nodes <;> rfl
  | some ps =>
      -- all but the list is evaluated
      have hlist : ofJson? (toJson ⟨devices, nodes, some ps⟩) =
          ((list? directory? (.arr (ps.map fun p => .obj [("path", .str p)]))).map some).bind
            fun directories => some ⟨devices, nodes, directories⟩ := by
        cases devices <;> cases nodes <;> rfl
      rw [hlist, list?_directories]
      rfl

theorem parse?_render_toJson (s : StorageSpec) : parse? s.toJson.render = some s := by
  rw [parse?, Json.parse?_render (isExact_toJson s), Option.bind_some, ofJson?_toJson]

/-! ## The law, proved -/

theorem normalize?_eq_some_iff {t n : String} :
    normalize? t = some n ↔ ∃ s, parse? t = some s ∧ s.toJson.render = n :=
  Option.map_eq_some_iff

theorem normalFormOf_render {t : String} {s : StorageSpec} (h : parse? t = some s) :
    NormalFormOf t s.toJson.render where
  plain := ⟨s.toJson, Json.parse?_render (isExact_toJson s), plain_toJson s⟩
  same := (parse?_render_toJson s).trans h.symm
  fixed := normalize?_eq_some_iff.2 ⟨s, parse?_render_toJson s, rfl⟩

theorem says_of_parse? {t : String} {j : Json} {s : StorageSpec} (hj : Json.parse? t = some j)
    (hs : parse? t = some s) : Says j s := by
  rw [parse?, hj, Option.bind_some] at hs
  exact says_of_ofJson? hs

/-- Specifications are written in one way each, which says all that was read. -/
theorem has_normal_form : Codec where
  lossless := parse?_render_toJson
  normal t n h := by
    obtain ⟨s, hs, rfl⟩ := normalize?_eq_some_iff.1 h
    exact normalFormOf_render hs
  faithful t s hs := by
    obtain ⟨j, hj, _⟩ := Option.bind_eq_some_iff.1 hs
    exact ⟨j, hj, says_of_parse? hj hs⟩
  sole t t' n n' j j' h h' hj hj' hsame := by
    obtain ⟨s, hs, rfl⟩ := normalize?_eq_some_iff.1 h
    obtain ⟨s', hs', rfl⟩ := normalize?_eq_some_iff.1 h'
    have hsays' : Says j s' := (hsame s').2 (says_of_parse? hj' hs')
    rw [(says_of_parse? hj hs).unique hsays']

/-- Records as arrays, two parts that are null, and a member that means nothing here. -/
def loose : String := "\x7b\"a\":0,\"storage\":[null,null,[[\"/a\"]]]\x7d"

theorem loose_normal_form : ∃ n, normalize? loose = some n ∧ NormalFormOf loose n ∧
    n = "\x7b\"storage\":\x7b\"directories\":[\x7b\"path\":\"/a\"\x7d]\x7d\x7d" := by
  have hread : normalize? loose =
      some "\x7b\"storage\":\x7b\"directories\":[\x7b\"path\":\"/a\"\x7d]\x7d\x7d" := by
    decide +kernel
  exact ⟨_, hread, has_normal_form.normal loose _ hread, rfl⟩

end Ceph.StorageSpec

end OsdMigration
