import OsdMigration.Ceph.Status.Reader
import OsdMigration.Ceph.Verdict
import OsdMigration.MiniCluster.CephCommands
import OsdMigration.Proofs.Cluster.Scaling
import OsdMigration.Proofs.Json.Record
import OsdMigration.Proofs.Json.RoundTrip

set_option autoImplicit false

/-! # The report of the cluster in memory

The cluster fills the numbers of its OSDs into a report that it was given. What is read from the
text of the result is the given report with these numbers, so it stays healthy if it was
(`parse?_statusReport`).
-/

namespace OsdMigration

open Ceph (OsdCounts Status)

namespace Json

/-- A member of an object without repetitions is found. -/
theorem single?_pairs (m : NameMap Json) (name : String) :
    single? m.pairs name = some (m.get? name) := by
  rw [single?, NameMap.filter_pairs]
  cases m.get? name <;> rfl

theorem record?_pairs (fields : List String) (m : NameMap Json) :
    record? fields (.obj m.pairs) = some (fields.map m.get?) := by
  rw [record?]
  induction fields with
  | nil => rfl
  | cons field fields ih =>
      rw [List.mapM_cons, single?_pairs, ih]
      rfl

/-- What stands at a name: an object with these members, or nothing, which is as good as an object
without members. -/
def Holds (slot : Option Json) (members : NameMap Json) : Prop :=
  slot = some (.obj members.pairs) ∨ slot = none ∧ members = .empty

/-- A default that is read from an object without members is read where nothing stands. -/
theorem field?_of_holds {α : Type} {slot : Option Json} {w : NameMap Json} {read : Json → Option α}
    {default : α} (h : Holds slot w) (hdefault : read (.obj []) = some default) :
    field? slot read default = read (.obj w.pairs) := by
  rcases h with rfl | ⟨rfl, rfl⟩
  · rfl
  · exact hdefault.symm

/-! ## Texts of objects -/

/-- What is read from the text of an object. -/
def rereadMap (m : NameMap Json) : NameMap Json := m.mapValues fun _ j => j.reread

theorem reread_pairs (m : NameMap Json) : (obj m.pairs).reread = obj (rereadMap m).pairs := by
  rw [reread, rereadMembers_eq_map]
  rfl

theorem rereadMap_insert (m : NameMap Json) (name : String) (j : Json) :
    rereadMap (m.insert name j) = (rereadMap m).insert name j.reread := NameMap.mapValues_insert ..

theorem Holds.reread {m w : NameMap Json} {name : String} (h : Holds (m.get? name) w) :
    Holds ((rereadMap m).get? name) (rereadMap w) := by
  rw [rereadMap, NameMap.get?_mapValues]
  rcases h with h | ⟨h, rfl⟩
  · rw [h]
    exact .inl (congrArg some (reread_pairs w))
  · rw [h]
    exact .inr ⟨rfl, rfl⟩

section

variable {p : Number → Bool} {members : List (String × Json)} {m w : NameMap Json} {name : String}
  {j : Json}

theorem numbersAre_of_lookup (h : membersAre p members = true)
    (hj : members.lookup name = some j) : j.numbersAre p = true := by
  induction members with
  | nil => cases hj
  | cons m members ih =>
      rw [membersAre, Bool.and_eq_true] at h
      rw [NameMap.lookup_cons] at hj
      split at hj
      · cases hj
        exact h.1
      · exact ih h.2 hj

theorem membersAre_put (h : membersAre p members = true) (name : String)
    (hj : j.numbersAre p = true) : membersAre p (NameMap.put name j members) = true := by
  induction members with
  | nil => simpa [NameMap.put, membersAre] using hj
  | cons m members ih =>
      rw [membersAre, Bool.and_eq_true] at h
      rw [NameMap.put]
      split
      · simp [membersAre, hj, h.1, h.2]
      · split
        · simp [membersAre, hj, h.2]
        · simp [membersAre, h.1, ih h.2]

theorem isLegible_insert (h : (obj m.pairs).isLegible = true) (name : String)
    (hj : j.isLegible = true) : (obj (m.insert name j).pairs).isLegible = true :=
  membersAre_put h name hj

theorem isLegible_of_holds (h : (obj m.pairs).isLegible = true)
    (hw : Holds (m.get? name) w) : (obj w.pairs).isLegible = true := by
  rcases hw with hw | ⟨_, rfl⟩
  · exact numbersAre_of_lookup h hw
  · rfl

theorem isLegible_ofNat {n : Nat} (hn : n < UInt64.size) : (ofNat n).isLegible = true :=
  isLegible_of_isExact (isExact_ofNat hn)

end

end Json

namespace Ceph

/-- The counts of a report, where they stand. -/
theorem Status.osds_of_ofJson? {m w c : NameMap Json} {status : Status}
    (h : ofJson? (.obj m.pairs) = some status) (hm : Json.Holds (m.get? "osdmap") w)
    (hw : Json.Holds (w.get? "osdmap") c) :
    OsdCounts.ofJson? (.obj c.pairs) = some status.osds := by
  have hwrapper : OsdCounts.ofWrapper? (.obj []) = some .absent := rfl
  have hcounts : OsdCounts.ofJson? (.obj []) = some .absent := rfl
  simp only [ofJson?, Json.record?_pairs, List.map_cons, List.map_nil, Option.bind_eq_bind,
    Option.bind_some, Option.pure_def, Option.bind_eq_some_iff, Option.some.injEq] at h
  obtain ⟨_, _, _, _, osds, hosds, _, _, _, _, rfl⟩ := h
  rw [Json.field?_of_holds hm hwrapper] at hosds
  simp only [OsdCounts.ofWrapper?, Json.record?_pairs, List.map_cons, List.map_nil,
    Option.bind_eq_bind, Option.bind_some] at hosds
  rwa [Json.field?_of_holds hw hcounts] at hosds

/-- Of a report only the counts depend on the member that has them. -/
theorem Status.ofJson?_insert {m : NameMap Json} {status : Status}
    (h : ofJson? (.obj m.pairs) = some status) {counts : Json} {osds : OsdCounts}
    (hc : OsdCounts.ofWrapper? counts = some osds) :
    ofJson? (.obj (m.insert "osdmap" counts).pairs) = some { status with osds } := by
  have hkept : ∀ name, name ≠ "osdmap" → (m.insert "osdmap" counts).get? name = m.get? name :=
    fun name hne => NameMap.get?_insert_of_ne _ _ hne
  simp only [ofJson?, Json.record?_pairs, List.map_cons, List.map_nil, Option.bind_eq_bind,
    Option.bind_some, Option.pure_def, Option.bind_eq_some_iff, Option.some.injEq] at h ⊢
  obtain ⟨fsid, hfsid, health, hhealth, _, _, groups, hgroups, tasks, htasks, rfl⟩ := h
  refine ⟨fsid, ?_, health, ?_, osds, ?_, groups, ?_, tasks, ?_, rfl⟩
  · rwa [hkept _ (by decide)]
  · rwa [hkept _ (by decide)]
  · rw [NameMap.get?_insert_self]
    exact hc
  · rwa [hkept _ (by decide)]
  · rwa [hkept _ (by decide)]

/-- Where the counts stand. -/
theorem OsdCounts.ofWrapper?_insert (w : NameMap Json) (counts : Json) :
    ofWrapper? (.obj (w.insert "osdmap" counts).pairs) = ofJson? counts := by
  simp only [ofWrapper?, Json.record?_pairs, List.map_cons, List.map_nil, Option.bind_eq_bind,
    Option.bind_some, NameMap.get?_insert_self]
  rfl

/-- A number of the 32-bit range is read. -/
theorem uint32?_ofNat {n : Nat} (hn : n < UInt32.size) :
    Json.uint32? (.ofNat n) = some (UInt32.ofNat n) := by
  rw [Json.uint32?_eq_some_iff, UInt32.toNat_ofNat_of_lt' hn]

/-- The two counts that are filled in. -/
theorem OsdCounts.ofJson?_insert {c : NameMap Json} {osds : OsdCounts}
    (h : ofJson? (.obj c.pairs) = some osds) {total up : Nat} (ht : total < UInt32.size)
    (hu : up < UInt32.size) :
    ofJson? (.obj ((c.insert "num_osds" (.ofNat total)).insert "num_up_osds" (.ofNat up)).pairs) =
      some { osds with total := UInt32.ofNat total, up := UInt32.ofNat up } := by
  have hkept : ∀ name, name ≠ "num_osds" → name ≠ "num_up_osds" →
      ((c.insert "num_osds" (.ofNat total)).insert "num_up_osds" (.ofNat up)).get? name =
        c.get? name := fun name hne hne' => by
    rw [NameMap.get?_insert_of_ne _ _ hne', NameMap.get?_insert_of_ne _ _ hne]
  simp only [ofJson?, Json.record?_pairs, List.map_cons, List.map_nil, Option.bind_eq_bind,
    Option.bind_some, Option.pure_def, Option.bind_eq_some_iff, Option.some.injEq] at h ⊢
  obtain ⟨epoch, hepoch, _, _, _, _, inside, hinside, remapped, hremapped, rfl⟩ := h
  refine ⟨epoch, ?_, _, ?_, _, ?_, inside, ?_, remapped, ?_, rfl⟩
  · rwa [hkept _ (by decide) (by decide)]
  · rw [NameMap.get?_insert_of_ne _ _ (by decide), NameMap.get?_insert_self]
    exact uint32?_ofNat ht
  · rw [NameMap.get?_insert_self]
    exact uint32?_ofNat hu
  · rwa [hkept _ (by decide) (by decide)]
  · rwa [hkept _ (by decide) (by decide)]

end Ceph

namespace MiniCluster

/-- A report whose text says that the cluster is healthy. -/
structure Healthy (report : Json) : Prop where
  legible : report.isLegible = true
  /-- Nothing is in the way of the counts. -/
  counted : ∃ m w c : NameMap Json, report = .obj m.pairs ∧ Json.Holds (m.get? "osdmap") w ∧
    Json.Holds (w.get? "osdmap") c
  healthy : ∃ status, Status.parse? report.render = some status ∧ status.verdict.1 = true

theorem healthy_healthyReport : Healthy healthyReport := by
  -- all its numbers are whole
  have hexact : healthyReport.isExact = true := by decide +kernel
  have hparse : Status.parse? healthyReport.render = Status.ofJson? healthyReport := by
    rw [Status.parse?, Json.parse?_render hexact, Option.bind_some]
  have hstatus : (Status.ofJson? healthyReport).map (fun s => s.verdict.1) = some true := by
    decide +kernel
  obtain ⟨status, hs, hv⟩ := Option.map_eq_some_iff.1 hstatus
  let members (j : Json) : List (String × Json) := (Cluster.members? j).getD []
  let wrapper := (healthyReport.get? "osdmap").getD .null
  let counts := (wrapper.get? "osdmap").getD .null
  refine ⟨Json.isLegible_of_isExact hexact, ⟨⟨members healthyReport, ?_⟩, ⟨members wrapper, ?_⟩,
    ⟨members counts, ?_⟩, ?_, .inl ?_, .inl ?_⟩, status, hparse ▸ hs, hv⟩
  all_goals decide +kernel

theorem setMember_pairs (m : NameMap Json) (name : String) (j : Json) :
    setMember (.obj m.pairs) name j = .obj (m.insert name j).pairs := rfl

theorem changeMember_pairs {m w : NameMap Json} {name : String} (h : Json.Holds (m.get? name) w)
    {f : Json → Json} (hf : f .null = f (.obj [])) :
    changeMember (.obj m.pairs) name f = .obj (m.insert name (f (.obj w.pairs))).pairs := by
  have hget : Json.get? (.obj m.pairs) name = m.get? name := NameMap.get?_pairs_reverse m name
  rw [changeMember, hget, setMember_pairs]
  rcases h with h | ⟨h, rfl⟩
  · rw [h, Option.getD_some]
  · rw [h, Option.getD_none, hf]
    rfl

/-- What is read from the report of a cluster. -/
theorem parse?_statusReport {m : MiniCluster} (h : Healthy m.report)
    (hfew : m.osds.members.length < UInt32.size) :
    ∃ status, Status.parse? m.statusReport.render = some status ∧ status.verdict.1 = true ∧
      status.osds.total = UInt32.ofNat m.osds.members.length ∧
      status.osds.up = UInt32.ofNat (m.osds.members.filter m.isUp).length := by
  obtain ⟨hlegible, ⟨r, w, c, hr, hw, hc⟩, status, hs, hv⟩ := h
  -- the report by itself is read as what becomes of it in its text
  have hgiven : Status.ofJson? (.obj (Json.rereadMap r).pairs) = some status := by
    rwa [Status.parse?, Json.parse?_render_reread hlegible, Option.bind_some, hr,
      Json.reread_pairs] at hs
  rw [hr] at hlegible
  have hup : (m.osds.members.filter m.isUp).length < UInt32.size :=
    Nat.lt_of_le_of_lt (List.length_filter_le ..) hfew
  have hfilled : m.statusReport = .obj (r.insert "osdmap" (.obj (w.insert "osdmap" (.obj
      ((c.insert "num_osds" (.ofNat m.osds.members.length)).insert "num_up_osds"
        (.ofNat (m.osds.members.filter m.isUp).length)).pairs)).pairs)).pairs := by
    rw [statusReport, hr, changeMember_pairs hw rfl, changeMember_pairs hc rfl, setMember_pairs,
      setMember_pairs]
  have hfilledLegible : m.statusReport.isLegible = true := by
    have hwide : ∀ {n : Nat}, n < UInt32.size → (Json.ofNat n).isLegible = true := fun hn =>
      Json.isLegible_ofNat (Nat.lt_trans hn (by decide))
    have hwlegible := Json.isLegible_of_holds hlegible hw
    have hclegible := Json.isLegible_of_holds hwlegible hc
    rw [hfilled]
    exact Json.isLegible_insert hlegible _ (Json.isLegible_insert hwlegible _
      (Json.isLegible_insert (Json.isLegible_insert hclegible _ (hwide hfew)) _ (hwide hup)))
  -- in the text of the filled report the counts are whole numbers, which are read as they are
  have hreread : m.statusReport.reread = .obj ((Json.rereadMap r).insert "osdmap" (.obj
      ((Json.rereadMap w).insert "osdmap" (.obj (((Json.rereadMap c).insert "num_osds"
        (.ofNat m.osds.members.length)).insert "num_up_osds"
          (.ofNat (m.osds.members.filter m.isUp).length)).pairs)).pairs)).pairs := by
    simp only [hfilled, Json.reread_pairs, Json.rereadMap_insert]
    rfl
  have hread := (OsdCounts.ofWrapper?_insert (Json.rereadMap w) _).trans
    (OsdCounts.ofJson?_insert (Status.osds_of_ofJson? hgiven hw.reread hc.reread) hfew hup)
  have hparse := (congrArg (·.bind Status.ofJson?) (Json.parse?_render_reread hfilledLegible)).trans
    ((congrArg Status.ofJson? hreread).trans (Status.ofJson?_insert hgiven hread))
  exact ⟨_, hparse, hv, rfl, rfl⟩

end MiniCluster

end OsdMigration
