import OsdMigration.Ceph.Status.Reader
import OsdMigration.Ceph.Verdict
import OsdMigration.Proofs.Json.Record

set_option autoImplicit false

/-! # Verdicts by what a report says

The verdict on a cluster is given on a decoded report. `verdict_judged` says what it means for the
text: which values stand where in its document, whatever else stands there and in whichever of its
two forms each record is written. A cluster counts as healthy if its report says so in so many words
and nothing in it says otherwise; a report that leaves out the health does not.
-/

namespace OsdMigration.Ceph

open Json (Along At Field Given)
open Number (Binary64)

/-! ## Where things stand in a report -/

/-- A part of a report. -/
def Status.part (name : String) : Field :=
  ⟨["fsid", "health", "osdmap", "pgmap", "progress_events"], name⟩

/-- A part of the health. -/
def Health.part (name : String) : Field := ⟨["status", "checks"], name⟩

/-- A part of what is said of the placement groups. -/
def PlacementGroups.part (name : String) : Field :=
  ⟨["pgs_by_state", "num_pgs", "num_pools", "num_objects", "inactive_pgs_ratio", "degraded_ratio",
    "misplaced_ratio", "recovering_bytes_per_sec"], name⟩

/-- Where the word for the health stands. -/
def healthWord : List Field := [Status.part "health", Health.part "status"]

/-- Where a part of what is said of the placement groups stands. -/
def ofGroups (name : String) : List Field := [Status.part "pgmap", PlacementGroups.part name]

/-- The fractions of the placement groups that are not where they belong. -/
def ratios : List String := ["inactive_pgs_ratio", "degraded_ratio", "misplaced_ratio"]

/-! ## What a report says -/

/-- The word for the health, which is `HEALTH_UNKNOWN` if there is none. -/
def SaysHealth (j : Json) (word : String) : Prop :=
  Given (Along healthWord j) (fun v w => v = .str w) "HEALTH_UNKNOWN" word

/-- How many bytes are recovered in a second. -/
def SaysRecovery (j : Json) (rate : Nat) : Prop :=
  Given (Along (ofGroups "recovering_bytes_per_sec") j) (fun v (n : Nat) => v = .num (.whole n))
    0 rate

/-- A fraction of the placement groups. -/
def SaysRatio (name : String) (j : Json) (x : Binary64) : Prop :=
  Given (Along (ofGroups name) j) (fun v x => v.binary64? = some x) Binary64.zero x

/-! ## What is demanded of a report -/

/-- A condition on a report, and how it is said that it is violated. -/
structure Condition where
  Met : Json → Prop
  Complaint : Json → String → Prop

namespace Condition

/-- The cluster is healthy by its own word. -/
def health : Condition where
  Met j := Along healthWord j (.str "HEALTH_OK")
  Complaint j text := ∃ word, SaysHealth j word ∧ text = "health is " ++ word ++ " not HEALTH_OK"

/-- Nothing is being recovered. -/
def recovery : Condition where
  Met j := ∀ v, Along (ofGroups "recovering_bytes_per_sec") j v → v = .num (.whole 0)
  Complaint j text := ∃ rate, SaysRecovery j rate ∧
    text = toString rate ++ " bytes are being recovered per second, 0 desired"

/-- Every placement group is where it belongs. -/
def placement : Condition where
  Met j := ∀ name ∈ ratios, ∀ v, Along (ofGroups name) j v →
    ∃ x, v.binary64? = some x ∧ x.isZero = true
  Complaint j text := ∃ x y z, SaysRatio "inactive_pgs_ratio" j x ∧
    SaysRatio "degraded_ratio" j y ∧ SaysRatio "misplaced_ratio" j z ∧
    text = x.percent ++ "% of PGs are inactive, " ++ y.percent ++ "% are degraded, and "
      ++ z.percent ++ "% are misplaced" ++ ", 0 required for all"

end Condition

/-- The conditions, in the order in which complaints about them are made. -/
def conditions : List Condition := [.health, .recovery, .placement]

/-- The complaints about a report: one for each condition that it violates, in their order. -/
inductive Complaints (j : Json) : List Condition → List String → Prop
  | nil : Complaints j [] []
  | met {c : Condition} {cs : List Condition} {texts : List String} (met : c.Met j)
      (rest : Complaints j cs texts) : Complaints j (c :: cs) texts
  | violated {c : Condition} {cs : List Condition} {text : String} {texts : List String}
      (unmet : ¬ c.Met j) (complaint : c.Complaint j text) (rest : Complaints j cs texts) :
      Complaints j (c :: cs) (text :: texts)

/-- The verdict that a document deserves: healthy if it meets every condition, and otherwise not,
with the complaints about it. -/
structure Judged (j : Json) (verdict : Bool × String) : Prop where
  healthy_iff : verdict = (true, "") ↔ ∀ c ∈ conditions, c.Met j
  otherwise : verdict ≠ (true, "") →
    ∃ texts, Complaints j conditions texts ∧ verdict = (false, String.intercalate " and " texts)

/-! ## Reading -/

theorem Status.given_of_ofJson? {j : Json} {s : Status} (h : ofJson? j = some s) :
    Given (At (part "health") j) (fun k a => Health.ofJson? k = some a) .absent s.health ∧
      Given (At (part "pgmap") j) (fun k a => PlacementGroups.ofJson? k = some a) .absent
        s.groups := by
  unfold ofJson? at h
  obtain ⟨slots, hslots, h⟩ := Option.bind_eq_some_iff.1 h
  have hall := Json.slots_of_record? (by decide) hslots
  split at h
  · simp only [List.forall₂_cons] at hall
    simp only [Option.bind_eq_bind, Option.bind_eq_some_iff, Option.pure_def,
      Option.some.injEq] at h
    obtain ⟨_, _, health, hhealth, _, _, groups, hgroups, _, _, rfl⟩ := h
    exact ⟨Json.given_of_field? hall.2.1 hhealth, Json.given_of_field? hall.2.2.2.1 hgroups⟩
  · cases h

/-- The health is what its word stands for. -/
def HealthStatus.Plain (status : HealthStatus) : Prop := ofWord status.word = status

theorem HealthStatus.plain_unknown : unknown.Plain := by
  unfold Plain
  decide

theorem HealthStatus.Plain.eq_ok_iff {status : HealthStatus} (h : status.Plain) :
    status = .ok ↔ status.word = "HEALTH_OK" := by
  constructor
  · rintro rfl
    rfl
  · intro hw
    rw [← h, hw]
    rfl

theorem Health.given_of_ofJson? {k : Json} {h : Health} (hk : ofJson? k = some h) :
    Given (Along [part "status"] k) (fun v w => v = .str w) "HEALTH_UNKNOWN" h.status.word ∧
      h.status.Plain := by
  unfold ofJson? at hk
  obtain ⟨slots, hslots, hk⟩ := Option.bind_eq_some_iff.1 hk
  have hall := Json.slots_of_record? (by decide) hslots
  split at hk
  · simp only [List.forall₂_cons] at hall
    simp only [Option.bind_eq_bind, Option.bind_eq_some_iff, Option.pure_def,
      Option.some.injEq] at hk
    obtain ⟨status, hstatus, _, _, rfl⟩ := hk
    have hgiven := Json.given_of_field? hall.1 hstatus
    constructor
    · refine hgiven.last.map HealthStatus.word ?_ rfl
      intro v a ha
      obtain ⟨w, hw, rfl⟩ := Option.map_eq_some_iff.1 ha
      rw [HealthStatus.word_ofWord]
      exact Json.text?_eq_some_iff.1 hw
    · refine hgiven.elim ?_ HealthStatus.plain_unknown
      intro v a ha
      obtain ⟨w, _, rfl⟩ := Option.map_eq_some_iff.1 ha
      exact congrArg HealthStatus.ofWord (HealthStatus.word_ofWord w)
  · cases hk

theorem PlacementGroups.given_of_ofJson? {k : Json} {g : PlacementGroups}
    (hk : ofJson? k = some g) :
    Given (Along [part "inactive_pgs_ratio"] k) (fun v x => v.binary64? = some x) Binary64.zero
        g.inactive ∧
      Given (Along [part "degraded_ratio"] k) (fun v x => v.binary64? = some x) Binary64.zero
        g.degraded ∧
      Given (Along [part "misplaced_ratio"] k) (fun v x => v.binary64? = some x) Binary64.zero
        g.misplaced ∧
      Given (Along [part "recovering_bytes_per_sec"] k) (fun v (n : Nat) => v = .num (.whole n)) 0
        g.recovering.toNat := by
  unfold ofJson? at hk
  obtain ⟨slots, hslots, hk⟩ := Option.bind_eq_some_iff.1 hk
  have hall := Json.slots_of_record? (by decide) hslots
  split at hk
  · simp only [List.forall₂_cons] at hall
    simp only [Option.bind_eq_bind, Option.bind_eq_some_iff, Option.pure_def,
      Option.some.injEq] at hk
    obtain ⟨_, _, _, _, _, _, _, _, x, hx, y, hy, z, hz, n, hn, rfl⟩ := hk
    obtain ⟨_, _, _, _, sx, sy, sz, sn, _⟩ := hall
    refine ⟨(Json.given_of_field? sx hx).last, (Json.given_of_field? sy hy).last,
      (Json.given_of_field? sz hz).last, ?_⟩
    exact (Json.given_of_field? sn hn).last.map UInt64.toNat (fun _ _ => Json.uint64?_eq_some_iff.1)
      rfl
  · cases hk

/-- A report is read as it says. -/
structure Status.Says (j : Json) (s : Status) : Prop where
  health : SaysHealth j s.health.status.word
  plain : s.health.status.Plain
  recovery : SaysRecovery j s.groups.recovering.toNat
  inactive : SaysRatio "inactive_pgs_ratio" j s.groups.inactive
  degraded : SaysRatio "degraded_ratio" j s.groups.degraded
  misplaced : SaysRatio "misplaced_ratio" j s.groups.misplaced

theorem Status.says_of_ofJson? {j : Json} {s : Status} (h : ofJson? j = some s) : s.Says j := by
  obtain ⟨health, groups⟩ := given_of_ofJson? h
  exact {
    health := health.field (fun h => h.status.word)
      (fun _ _ hk => (Health.given_of_ofJson? hk).1) rfl
    plain := health.elim (fun _ _ hk => (Health.given_of_ofJson? hk).2)
      HealthStatus.plain_unknown
    recovery := groups.field (fun g => g.recovering.toNat)
      (fun _ _ hk => (PlacementGroups.given_of_ofJson? hk).2.2.2) rfl
    inactive := groups.field PlacementGroups.inactive
      (fun _ _ hk => (PlacementGroups.given_of_ofJson? hk).1) rfl
    degraded := groups.field PlacementGroups.degraded
      (fun _ _ hk => (PlacementGroups.given_of_ofJson? hk).2.1) rfl
    misplaced := groups.field PlacementGroups.misplaced
      (fun _ _ hk => (PlacementGroups.given_of_ofJson? hk).2.2.1) rfl }

/-! ## Judging -/

/-- A condition is met and there is no complaint, or it is violated and there is one. -/
def Condition.Answered (c : Condition) (j : Json) (problem : Option String) : Prop :=
  match problem with
  | none => c.Met j
  | some text => ¬ c.Met j ∧ c.Complaint j text

theorem Condition.Answered.complaints {c : Condition} {j : Json} {problem : Option String}
    {cs : List Condition} {texts : List String} (h : c.Answered j problem)
    (rest : Complaints j cs texts) : Complaints j (c :: cs) (problem.toList ++ texts) := by
  cases problem with
  | none => exact .met h rest
  | some text => exact .violated h.1 h.2 rest

theorem Complaints.eq_nil_iff {j : Json} {cs : List Condition} {texts : List String}
    (h : Complaints j cs texts) : texts = [] ↔ ∀ c ∈ cs, c.Met j := by
  induction h with
  | nil => simp
  | met met _ ih => rw [ih, List.forall_mem_cons, and_iff_right met]
  | violated unmet _ _ _ =>
      rw [List.forall_mem_cons]
      exact iff_of_false (List.cons_ne_nil _ _) fun hall => unmet hall.1

namespace Status

variable {j : Json} {s : Status}

theorem Says.health_answered (h : s.Says j) :
    Condition.health.Answered j s.healthProblem? := by
  have hiff : Condition.health.Met j ↔ s.health.status = .ok := by
    rw [h.plain.eq_ok_iff]
    refine h.health.stands_iff ?_ (by decide)
    rintro v w rfl
    rw [Json.str.injEq, eq_comm]
  unfold healthProblem?
  split
  · exact hiff.2 ‹_›
  · exact ⟨fun hm => ‹¬_› (hiff.1 hm), _, h.health, rfl⟩

theorem Says.recovery_answered (h : s.Says j) :
    Condition.recovery.Answered j s.recoveryProblem? := by
  have hiff : Condition.recovery.Met j ↔ s.groups.recovering = 0 := by
    rw [← UInt64.toNat_inj]
    refine h.recovery.forall_iff (Q := fun n => n = 0) ?_ rfl
    rintro v n rfl
    simp
  unfold recoveryProblem?
  split
  · exact hiff.2 ‹_›
  · exact ⟨fun hm => ‹¬_› (hiff.1 hm), _, h.recovery, rfl⟩

theorem Says.placement_answered (h : s.Says j) :
    Condition.placement.Answered j s.placementProblem? := by
  have hratio : ∀ {name x}, SaysRatio name j x → ((∀ v, Along (ofGroups name) j v →
      ∃ x, v.binary64? = some x ∧ x.isZero = true) ↔ x.isZero = true) := fun hx =>
    hx.forall_iff (Q := fun x => x.isZero = true) (fun v x hv => by simp [hv]) rfl
  have hiff : Condition.placement.Met j ↔ s.groups.unclean = false := by
    simp only [Condition.placement, ratios, List.forall_mem_cons, hratio h.inactive,
      hratio h.degraded, hratio h.misplaced, PlacementGroups.unclean]
    simp [and_assoc]
  unfold placementProblem?
  split
  · rename_i hu
    refine ⟨fun hm => ?_, _, _, _, h.inactive, h.degraded, h.misplaced, rfl⟩
    rw [hiff.1 hm] at hu
    cases hu
  · exact hiff.2 (Bool.eq_false_iff.2 ‹_›)

theorem Says.complaints (h : s.Says j) : Complaints j conditions s.problems := by
  have hall := h.health_answered.complaints (h.recovery_answered.complaints
    (h.placement_answered.complaints .nil))
  rwa [List.append_nil, ← List.append_assoc] at hall

/-- The verdict on a report is the one that its document deserves. -/
theorem verdict_judged {text : String} {s : Status} (h : parse? text = some s) :
    ∃ j, Json.parse? text = some j ∧ Judged j s.verdict := by
  obtain ⟨j, hj, hs⟩ := Option.bind_eq_some_iff.1 h
  have hall := (says_of_ofJson? hs).complaints
  have hverdict : s.verdict = (true, "") ↔ s.problems = [] := by
    constructor
    · intro hv
      exact List.isEmpty_iff.1 (congrArg Prod.fst hv)
    · intro hnil
      rw [verdict, hnil]
      rfl
  refine ⟨j, hj, hverdict.trans hall.eq_nil_iff, fun hne => ⟨_, hall, ?_⟩⟩
  have hsome : s.problems.isEmpty = false :=
    Bool.eq_false_iff.2 fun hempty => hne (hverdict.2 (List.isEmpty_iff.1 hempty))
  rw [verdict, hsome]

/-- A report of a healthy cluster, its records written as arrays, with a negative zero for a
fraction and nothing for the others. -/
def terse : String := "[\"\",[\"HEALTH_OK\"],[],[[],1,1,1,-0.0]]"

theorem terse_judged : ∃ s j, parse? terse = some s ∧ s.verdict = (true, "") ∧
    Json.parse? terse = some j ∧ ∀ c ∈ conditions, c.Met j := by
  have hread : (parse? terse).map verdict = some (true, "") := by decide +kernel
  obtain ⟨s, hs, hv⟩ := Option.map_eq_some_iff.1 hread
  obtain ⟨j, hj, hjudged⟩ := verdict_judged hs
  exact ⟨s, j, hs, hv, hj, hjudged.healthy_iff.1 hv⟩

end Status

end OsdMigration.Ceph
