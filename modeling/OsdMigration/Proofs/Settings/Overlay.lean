import Mathlib.Data.List.Nodup
import OsdMigration.Json.Equality
import OsdMigration.Json.Printer
import OsdMigration.Proofs.Json.Record
import OsdMigration.Proofs.Json.RoundTrip
import OsdMigration.Settings.Json

set_option autoImplicit false

/-! # Settings over the standard ones

Settings are the values of nineteen parts. `lossless_over_standard` says how they stand in a
document: what is written is read back, and an object of some of the parts gives the standard
settings with these parts replaced, in whatever order they stand and whatever else stands beside
them. An object that names a part twice, or with a value that is not of its kind, gives nothing.
Everything follows from one equivalence, `ofJson?_obj_eq_some_iff`, which is proved part by part.
-/

namespace OsdMigration.Settings

open Json (record? field? text? uint32? uint64? single?)

/-! ## Parts -/

/-- What the value of a part may be: a text, or a whole number below a bound. -/
inductive Kind where
  | text
  | whole (bound : Nat)

/-- The values of a kind. -/
inductive Kind.Has : Kind → Json → Prop
  | text (t : String) : Has .text (.str t)
  | whole {bound n : Nat} (below : n < bound) : Has (.whole bound) (.ofNat n)

/-- A part of the settings: its name in a document, what its values may be, and the value that it
has in given settings. -/
structure Part where
  name : String
  kind : Kind
  value : Settings → Json

namespace Part

/-- A part that is a text. -/
def text (name : String) (field : Settings → String) : Part :=
  ⟨name, .text, fun s => .str (field s)⟩

/-- A part that is a number of the 32-bit range. -/
def word (name : String) (field : Settings → UInt32) : Part :=
  ⟨name, .whole UInt32.size, fun s => .ofNat (field s).toNat⟩

/-- A part that is a number of the 64-bit range. -/
def long (name : String) (field : Settings → UInt64) : Part :=
  ⟨name, .whole UInt64.size, fun s => .ofNat (field s).toNat⟩

end Part

/-- The parts of the settings. -/
def parts : List Part :=
  [.text "namespace" space, .text "clusterName" cluster, .text "toolboxDeployment" toolbox,
    .text "toolboxSelector" toolboxSelector, .text "operatorDeployment" operator,
    .text "operatorSelector" operatorSelector, .text "osdSelector" osdSelector,
    .text "osdIdLabel" osdLabel, .text "osdDeploymentPrefix" osdDeploymentStem,
    .text "legacyMountPath" hostpathMount, .long "pollIntervalMs" interval,
    .word "maxConsecutiveFailures" patience, .long "maxBlockHosts" maxBlockHosts,
    .word "healthConfirmations" healthConfirmations, .word "safeConfirmations" safeConfirmations,
    .long "initialHealthTimeoutSecs" healthTimeout,
    .long "toolboxReadyTimeoutSecs" toolboxTimeout, .long "scaleDownTimeoutSecs" scaleTimeout,
    .long "osdDownTimeoutSecs" osdDownTimeout]

/-- Members that settings can be made of: none of the parts is named twice, and each that is named
has a value of its kind. Of members with other names nothing is asked. -/
structure Fit (members : List (String × Json)) : Prop where
  once : ∀ p ∈ parts, (members.map Prod.fst).count p.name ≤ 1
  typed : ∀ p ∈ parts, ∀ v, (p.name, v) ∈ members → p.kind.Has v

/-- The standard settings with the parts replaced that the members name. -/
structure Overlaid (members : List (String × Json)) (s : Settings) : Prop where
  given : ∀ p ∈ parts, ∀ v, (p.name, v) ∈ members → p.value s = v
  kept : ∀ p ∈ parts, p.name ∉ members.map Prod.fst → p.value s = p.value standard

/-- How settings stand in a document. -/
structure Codec : Prop where
  /-- Settings are written as the values of all their parts. -/
  written : ∀ s, toJson s = .obj (parts.map fun p => (p.name, p.value s))
  /-- What is written is read back. -/
  lossless : ∀ s, parse? (toJson s).render = some s
  /-- An object of some of the parts, of other members as well, and in any order, is read as the
  standard settings with these parts replaced. -/
  overlay : ∀ text members, Json.parse? text = some (.obj members) → Fit members →
    ∃ s, parse? text = some s ∧ Overlaid members s
  /-- There are no two ways to replace them. -/
  sole : ∀ members s s', Overlaid members s → Overlaid members s' → s = s'
  /-- Nothing else is read. -/
  unfit : ∀ text members, Json.parse? text = some (.obj members) → ¬ Fit members →
    parse? text = none
  /-- A part that is repeated. -/
  repeated : ∀ text members, Json.parse? text = some (.obj members) → ∀ p ∈ parts,
    1 < (members.map Prod.fst).count p.name → parse? text = none
  /-- A part that is null. -/
  null : ∀ text members, Json.parse? text = some (.obj members) → ∀ p ∈ parts,
    (p.name, .null) ∈ members → parse? text = none
  /-- A part that is a numeral of a whole number outside of its range. -/
  outOfRange : ∀ text members, Json.parse? text = some (.obj members) → ∀ p ∈ parts, ∀ bound,
    p.kind = .whole bound → ∀ negative digits,
    (p.name, .num (.ofNumeral negative digits none none)) ∈ members →
    (negative = true ∧ 0 < Nat.ofDigitChars 10 digits 0) ∨ bound ≤ Nat.ofDigitChars 10 digits 0 →
      parse? text = none

/-! ## The values of the parts -/

/-- The names are those that a reader of settings looks for. -/
theorem names_parts : parts.map Part.name = fieldNames := rfl

theorem toJson_eq (s : Settings) : toJson s = .obj (parts.map fun p => (p.name, p.value s)) := rfl

section

variable {name : String} {v : Json}

theorem Part.has_text_iff {field : Settings → String} :
    (text name field).kind.Has v ↔ ∃ t, .str t = v :=
  ⟨fun | .text t => ⟨t, rfl⟩, fun ⟨t, h⟩ => h ▸ .text t⟩

theorem Part.has_word_iff {field : Settings → UInt32} :
    (word name field).kind.Has v ↔ ∃ n : UInt32, .ofNat n.toNat = v := by
  constructor
  · rintro ⟨below⟩
    exact ⟨.ofNat _, by rw [UInt32.toNat_ofNat_of_lt' ‹_›]⟩
  · rintro ⟨n, rfl⟩
    exact .whole n.toNat_lt

theorem Part.has_long_iff {field : Settings → UInt64} :
    (long name field).kind.Has v ↔ ∃ n : UInt64, .ofNat n.toNat = v := by
  constructor
  · rintro ⟨below⟩
    exact ⟨.ofNat _, by rw [UInt64.toNat_ofNat_of_lt' ‹_›]⟩
  · rintro ⟨n, rfl⟩
    exact .whole n.toNat_lt

end

/-- What is true of each sort of part is true of the parts. -/
theorem forall_parts {P : Part → Prop} (htext : ∀ name field, P (.text name field))
    (hword : ∀ name field, P (.word name field)) (hlong : ∀ name field, P (.long name field)) :
    ∀ p ∈ parts, P p := by
  simp only [parts, List.forall_mem_cons, htext, hword, hlong, List.not_mem_nil, false_implies,
    implies_true, and_self]

theorem has_value (s : Settings) : ∀ p ∈ parts, p.kind.Has (p.value s) :=
  forall_parts (fun _ _ => .text _) (fun _ field => .whole (field s).toNat_lt)
    fun _ field => .whole (field s).toNat_lt

theorem isExact_value (s : Settings) : ∀ p ∈ parts, (p.value s).isExact = true :=
  forall_parts (fun _ _ => rfl)
    (fun _ field => Json.isExact_ofNat (Nat.lt_trans (field s).toNat_lt (by decide)))
    fun _ field => Json.isExact_ofNat (field s).toNat_lt

/-- Any values of these kinds are those of some settings. -/
theorem exists_of_kinds {f : Part → Json} (h : ∀ p ∈ parts, p.kind.Has (f p)) :
    ∃ s, ∀ p ∈ parts, p.value s = f p := by
  simp only [parts, List.forall_mem_cons, Part.has_text_iff, Part.has_word_iff,
    Part.has_long_iff] at h ⊢
  obtain ⟨⟨_, h₁⟩, ⟨_, h₂⟩, ⟨_, h₃⟩, ⟨_, h₄⟩, ⟨_, h₅⟩, ⟨_, h₆⟩, ⟨_, h₇⟩, ⟨_, h₈⟩, ⟨_, h₉⟩, ⟨_, h₁₀⟩,
    ⟨_, h₁₁⟩, ⟨_, h₁₂⟩, ⟨_, h₁₃⟩, ⟨_, h₁₄⟩, ⟨_, h₁₅⟩, ⟨_, h₁₆⟩, ⟨_, h₁₇⟩, ⟨_, h₁₈⟩, ⟨_, h₁₉⟩, -⟩ :=
    h
  exact ⟨⟨_, _, _, _, _, _, _, _, _, _, _, _, _, _, _, _, _, _, _⟩, h₁, h₂, h₃, h₄, h₅, h₆, h₇, h₈,
    h₉, h₁₀, h₁₁, h₁₂, h₁₃, h₁₄, h₁₅, h₁₆, h₁₇, h₁₈, h₁₉, nofun⟩

/-- Settings are equal if all their parts are. -/
theorem eq_of_value_eq {s s' : Settings} (h : ∀ p ∈ parts, p.value s = p.value s') : s = s' := by
  simp only [parts, List.forall_mem_cons, Part.text, Part.word, Part.long, Json.str.injEq,
    Json.ofNat, Json.num.injEq, Json.Number.whole.injEq, Int.natCast_inj, UInt32.toNat_inj,
    UInt64.toNat_inj] at h
  cases s
  cases s'
  simp only [Settings.mk.injEq]
  simpa using h

/-- What is read of a part is written as what was given, or as its default. -/
theorem get_eq_some_iff {α β : Type} {read : α → Option β} {write : β → α}
    (hread : ∀ a b, read a = some b ↔ a = write b) {slot : Option α} {default b : β} :
    (match slot with | none => some default | some a => read a) = some b ↔
      write b = slot.getD (write default) := by
  cases slot with
  | some a => rw [hread, eq_comm, Option.getD_some]
  | none => rw [Option.getD_none, eq_comm (a := write b), ← hread, (hread _ default).2 rfl]

/-- Settings are read part by part. A simplifier would go through the rest of the reader twice at
each of its parts, so they are taken off one at a time. -/
theorem ofSlots?_map_eq_some_iff {f : String → Option Json} {s : Settings} :
    ofSlots? text? uint32? uint64? (fieldNames.map f) = some s ↔
      ∀ p ∈ parts, p.value s = (f p.name).getD (p.value standard) := by
  have htext {slot default t} := @get_eq_some_iff _ _ _ _
    (fun v t => Json.text?_eq_some_iff (v := v) (s := t)) slot default t
  have hword {slot default n} := @get_eq_some_iff _ _ _ _
    (fun v n => Json.uint32?_eq_some_iff (v := v) (n := n)) slot default n
  have hlong {slot default n} := @get_eq_some_iff _ _ _ _
    (fun v n => Json.uint64?_eq_some_iff (v := v) (n := n)) slot default n
  simp only [parts, List.forall_mem_cons, Part.text, Part.word, Part.long]
  unfold ofSlots?
  dsimp only [fieldNames, List.map_cons, List.map_nil]
  constructor
  · intro h
    iterate 19 obtain ⟨_, _, h⟩ := Option.bind_eq_some_iff.1 h
    cases h
    and_intros
    all_goals first
      | exact htext.1 ‹_›
      | exact hword.1 ‹_›
      | exact hlong.1 ‹_›
      | exact fun _ => nofun
  · intro h
    iterate 19 obtain ⟨_, h⟩ := h
    iterate 19 first
      | refine Option.bind_eq_some_iff.2 ⟨_, htext.2 ‹_›, ?_⟩
      | refine Option.bind_eq_some_iff.2 ⟨_, hword.2 ‹_›, ?_⟩
      | refine Option.bind_eq_some_iff.2 ⟨_, hlong.2 ‹_›, ?_⟩
    rfl

/-- What is found at a name that members have once at most: what it names, and else a default. -/
theorem eq_found_iff {members : List (String × Json)} {name : String}
    (once : (members.map Prod.fst).count name ≤ 1) {w default : Json} :
    w = (single? members name).join.getD default ↔
      (∀ v, (name, v) ∈ members → w = v) ∧ (name ∉ members.map Prod.fst → w = default) := by
  obtain ⟨slot, hslot⟩ := Option.isSome_iff_exists.1 (Json.single?_isSome_iff.2 once)
  have hnamed : name ∈ members.map Prod.fst ↔ ∃ v, (name, v) ∈ members := by simp
  simp only [hnamed, Json.mem_iff_of_single? hslot, hslot]
  cases slot <;> simp

section

variable {members : List (String × Json)} {s s' : Settings}

theorem overlaid_iff (once : ∀ p ∈ parts, (members.map Prod.fst).count p.name ≤ 1) :
    Overlaid members s ↔
      ∀ p ∈ parts, p.value s = (single? members p.name).join.getD (p.value standard) := by
  constructor
  · intro h p hp
    exact (eq_found_iff (once p hp)).2 ⟨h.given p hp, h.kept p hp⟩
  · intro h
    have hboth := fun p hp => (eq_found_iff (once p hp)).1 (h p hp)
    exact ⟨fun p hp => (hboth p hp).1, fun p hp => (hboth p hp).2⟩

/-- An object is read as settings if and only if it is fit, and as the ones that it lays over the
standard ones. -/
theorem ofJson?_obj_eq_some_iff :
    ofJson? (.obj members) = some s ↔ Fit members ∧ Overlaid members s := by
  have honce : (∀ name ∈ fieldNames, (single? members name).isSome) ↔
      ∀ p ∈ parts, (members.map Prod.fst).count p.name ≤ 1 := by
    simp only [← names_parts, List.forall_mem_map, Json.single?_isSome_iff]
  simp only [ofJson?, Option.bind_eq_some_iff, Json.record?_obj_eq_some_iff, honce]
  constructor
  · rintro ⟨_, ⟨once, rfl⟩, hs⟩
    have hover := (overlaid_iff once).2 (ofSlots?_map_eq_some_iff.1 hs)
    exact ⟨⟨once, fun p hp v hv => hover.given p hp v hv ▸ has_value s p hp⟩, hover⟩
  · rintro ⟨fit, hover⟩
    exact ⟨_, ⟨fit.once, rfl⟩, ofSlots?_map_eq_some_iff.2 ((overlaid_iff fit.once).1 hover)⟩

/-- Fit members can be laid over the standard settings. -/
theorem Fit.exists_overlaid (fit : Fit members) : ∃ s, Overlaid members s := by
  -- what is found for a part is of its kind, whether it is named or not
  have hfound : ∀ p ∈ parts,
      p.kind.Has ((single? members p.name).join.getD (p.value standard)) := fun p hp => by
    obtain ⟨hgiven, hkept⟩ := (eq_found_iff (fit.once p hp)).1 (Eq.refl _)
    by_cases hnamed : p.name ∈ members.map Prod.fst
    · obtain ⟨⟨_, v⟩, hv, rfl⟩ := List.mem_map.1 hnamed
      rw [hgiven v hv]
      exact fit.typed p hp v hv
    · rw [hkept hnamed]
      exact has_value standard p hp
  exact (exists_of_kinds hfound).imp fun s hs => (overlaid_iff fit.once).2 hs

theorem Overlaid.unique (h : Overlaid members s) (h' : Overlaid members s') : s = s' := by
  refine eq_of_value_eq fun p hp => ?_
  by_cases hnamed : p.name ∈ members.map Prod.fst
  · obtain ⟨⟨_, v⟩, hv, rfl⟩ := List.mem_map.1 hnamed
    exact (h.given p hp v hv).trans (h'.given p hp v hv).symm
  · exact (h.kept p hp hnamed).trans (h'.kept p hp hnamed).symm

end

/-! ## What is written -/

theorem nodup_names : (parts.map Part.name).Nodup := by
  decide

/-- The members of the written form lay the settings that they are of over the standard ones. -/
theorem overlaid_written (s : Settings) :
    Overlaid (parts.map fun p => (p.name, p.value s)) s where
  given p hp v hv := by
    obtain ⟨q, hq, hpair⟩ := List.mem_map.1 hv
    obtain ⟨hname, rfl⟩ := Prod.mk.inj hpair
    rw [List.inj_on_of_nodup_map nodup_names hq hp hname]
  kept p hp hnot := by
    refine absurd ?_ hnot
    rw [List.map_map]
    exact List.mem_map_of_mem hp

theorem fit_written (s : Settings) : Fit (parts.map fun p => (p.name, p.value s)) where
  once p _ := by
    rw [List.map_map]
    exact List.nodup_iff_count_le_one.1 nodup_names p.name
  typed p hp v hv := (overlaid_written s).given p hp v hv ▸ has_value s p hp

theorem parse?_render_toJson (s : Settings) : parse? (toJson s).render = some s := by
  have hexact : (toJson s).isExact = true := by
    rw [toJson_eq, Json.isExact, Json.numbersAre, Json.membersAre_iff, List.forall_mem_map]
    exact isExact_value s
  rw [parse?, Json.parse?_render hexact, Option.bind_some, toJson_eq, ofJson?_obj_eq_some_iff]
  exact ⟨fit_written s, overlaid_written s⟩

/-! ## The law -/

theorem parse?_eq_none_of_unfit {text : String} {members : List (String × Json)}
    (htext : Json.parse? text = some (.obj members)) (unfit : ¬ Fit members) :
    parse? text = none := by
  rw [parse?, htext, Option.bind_some, Option.eq_none_iff_forall_ne_some]
  exact fun s hs => unfit (ofJson?_obj_eq_some_iff.1 hs).1

theorem not_has_null (kind : Kind) : ¬ kind.Has .null := nofun

/-- A numeral that is read as a whole number says this number. -/
theorem eq_of_ofNumeral_eq_whole {negative : Bool} {digits : List Char} {i : Int}
    (h : Json.Number.ofNumeral negative digits none none = .whole i) :
    i = if negative then -(Nat.ofDigitChars 10 digits 0 : Int)
      else Nat.ofDigitChars 10 digits 0 := by
  unfold Json.Number.ofNumeral at h
  extract_lets magnitude value at h
  split at h
  · exact (Json.Number.whole.inj h).symm
  · split at h <;> cases h

theorem not_has_of_outOfRange {bound : Nat} {digits : List Char} {negative : Bool}
    (h : (negative = true ∧ 0 < Nat.ofDigitChars 10 digits 0) ∨
      bound ≤ Nat.ofDigitChars 10 digits 0) :
    ¬ (Kind.whole bound).Has (.num (.ofNumeral negative digits none none)) := by
  generalize hv : Json.num (.ofNumeral negative digits none none) = v
  rintro ⟨below⟩
  have hn := eq_of_ofNumeral_eq_whole (Json.num.inj hv)
  split at hn
  · omega
  · obtain ⟨hneg, _⟩ | hbound := h
    · contradiction
    · omega

/-- Settings are written without loss, and some of them are read over the standard ones. -/
theorem lossless_over_standard : Codec where
  written := toJson_eq
  lossless := parse?_render_toJson
  overlay text members htext fit := by
    obtain ⟨s, hs⟩ := fit.exists_overlaid
    rw [parse?, htext]
    exact ⟨s, ofJson?_obj_eq_some_iff.2 ⟨fit, hs⟩, hs⟩
  sole _ _ _ := Overlaid.unique
  unfit _ _ := parse?_eq_none_of_unfit
  repeated _ _ htext p hp htwice :=
    parse?_eq_none_of_unfit htext fun fit => absurd (fit.once p hp) (Nat.not_le.2 htwice)
  null _ _ htext p hp hnull :=
    parse?_eq_none_of_unfit htext fun fit => not_has_null _ (fit.typed p hp _ hnull)
  outOfRange _ _ htext p hp bound hkind negative digits hmem hout :=
    parse?_eq_none_of_unfit htext fun fit =>
      not_has_of_outOfRange hout (hkind ▸ fit.typed p hp _ hmem)

/-- One part, beside a member that is repeated and has a value that is no number. -/
def sparse : String := "\x7b\"a\":[1e999],\"maxBlockHosts\":2,\"a\":null\x7d"

/-- The members of that. -/
def sparseMembers : List (String × Json) :=
  [("a", .arr [.num .huge]), ("maxBlockHosts", .ofNat 2), ("a", .null)]

theorem sparse_over_standard : Json.parse? sparse = some (.obj sparseMembers) ∧
    Fit sparseMembers ∧ ∃ s, parse? sparse = some s ∧ Overlaid sparseMembers s ∧
      s = { standard with maxBlockHosts := 2 } := by
  have hparse : Json.parse? sparse = some (.obj sparseMembers) := by decide +kernel
  have hread : parse? sparse = some { standard with maxBlockHosts := 2 } := by decide +kernel
  have hfit : Fit sparseMembers := by
    constructor
    case once => decide
    case typed =>
      have htwo : (Kind.whole UInt64.size).Has (.ofNat 2) := .whole (by decide)
      simpa [parts, sparseMembers, Part.text, Part.word, Part.long] using htwo
  obtain ⟨s, hs, hover⟩ := lossless_over_standard.overlay sparse sparseMembers hparse hfit
  exact ⟨hparse, hfit, s, hs, hover, Option.some.inj (hs.symm.trans hread)⟩

end OsdMigration.Settings
