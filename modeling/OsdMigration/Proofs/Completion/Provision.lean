import OsdMigration.Migration
import OsdMigration.Proofs.BlockDevices
import OsdMigration.Proofs.Completion.Removals
import OsdMigration.Proofs.MiniCluster.Arrival

set_option autoImplicit false

/-! # Provisioning that succeeds

On a cluster in memory that runs some OSDs the listings show these OSDs (`brings_inventory`). Where
the cluster object is the one that it started with, block devices are enabled, which brings up the
OSDs that wait for them, and if these are on enough hosts, the wait for them ends with its first
poll (`brings_provision`).
-/

namespace OsdMigration

open Cluster
open Job (Brings)
open MiniCluster (Answering Runs directoryObject get?_osdLabels_number osdPod podOf waiting)
open Osd (Device)

variable {s : Settings} {polls t : Nat} {m : MiniCluster} {devices : List Device}

/-! ## Listings -/

/-- The OSD of a pod is read from its labels and its mounts. -/
theorem ofPod_podOf (s : Settings) (d : Device) :
    Device.ofPod s.stockNamed.osdLabel s.stockNamed.hostpathMount (podOf d) = .ok d := by
  obtain ⟨osd, host, backing⟩ := d
  have hnumber : ((osdPod osd host (backing = .hostpath)).labels.get? "ceph-osd-id").getD "" =
      toString osd := congrArg (Option.getD · "") (get?_osdLabels_number osd)
  have hhost : Osd.hostOf (osdPod osd host (backing = .hostpath)) = host := by
    by_cases hempty : host = ""
    · subst hempty
      rfl
    · have hsome : (some host).filter (· ≠ "") = some host := by simp [hempty]
      have hstatus : ((osdPod osd host (backing = .hostpath)).status.bind fun s =>
          s.hostAddress) = some host := rfl
      rw [Osd.hostOf, hstatus, hsome]
  have hmounts : (if Osd.mounts (osdPod osd host (backing = .hostpath)) "/opt/replicated/rook" then
      Osd.Backing.hostpath else .block) = backing := by
    cases backing <;> rfl
  have hlabel : s.stockNamed.osdLabel = "ceph-osd-id" := rfl
  have hmount : s.stockNamed.hostpathMount = "/opt/replicated/rook" := rfl
  rw [podOf, Device.ofPod, hlabel, hmount, hnumber]
  simp only [Text.uint32?_toString, hhost, hmounts]

theorem ofPods_podOf (s : Settings) (devices : List Device) :
    Osd.ofPods s.stockNamed (devices.map podOf) = .ok devices := by
  unfold Osd.ofPods
  induction devices with
  | nil => rfl
  | cons d devices ih =>
      rw [List.map_cons, List.mapM_cons, ih, ofPod_podOf]
      rfl

/-- The OSDs are listed. -/
theorem brings_inventory (h : Answering m) (hr : Runs m devices) :
    Brings (Osd.inventory s.stockNamed) t m devices t m := by
  have hlist : Brings (Job.ask (.listPods s.stockNamed.space s.stockNamed.osdSelector)) t m
      (devices.map podOf) t m := hr.listed ▸ brings_listPods h.listings _ _
  exact (Brings.during _ hlist).bind (.ofAttempt (ofPods_podOf s devices))

theorem brings_countHostsNow (h : Answering m) (hr : Runs m devices) :
    Brings (Osd.countHostsNow s.stockNamed) t m (Osd.countHosts devices) t m :=
  (brings_inventory h hr).bind (.pure _)

theorem brings_hostpathOsds (h : Answering m) (hr : Runs m devices) :
    Brings (Osd.hostpathOsds s.stockNamed) t m (Osd.onHostpath devices) t m :=
  (brings_inventory h hr).bind (.pure _)

/-! ## Block devices -/

/-- A cluster object that uses every block device. -/
def usesBlock (j : Json) : Bool := ({ MiniCluster.bare with clusterObject := j }).usesAllDevices

theorem ok_of_toOption {ε α : Type} {a : Except ε α} {x : α} (h : a.toOption = some x) :
    a = .ok x := by
  cases a with
  | error e => cases h
  | ok y => rw [Option.some.inj h]

/-- Both patches of the cluster object apply, and block devices are used from the first one on. -/
theorem patched_directoryObject :
    ∃ j j', useAllDevicesPatch.apply directoryObject = .ok j ∧ usesBlock j = true ∧
      dropDirectoriesPatch.apply j = .ok j' ∧ usesBlock j' = true := by
  have happlied : ((useAllDevicesPatch.apply directoryObject).toOption.bind fun j =>
      (dropDirectoriesPatch.apply j).toOption.map fun j' => (usesBlock j, usesBlock j')) =
        some (true, true) := by
    decide +kernel
  obtain ⟨j, hj, h⟩ := Option.bind_eq_some_iff.1 happlied
  obtain ⟨j', hj', h⟩ := Option.map_eq_some_iff.1 h
  obtain ⟨huses, huses'⟩ := Prod.mk.inj h
  exact ⟨j, j', ok_of_toOption hj, huses, ok_of_toOption hj', huses'⟩

/-- A patch after which block devices are used brings up the OSDs that wait for them. -/
theorem brings_change {patch : Json.Patch} {j : Json}
    (hpatch : patch.apply m.clusterObject = .ok j) (huses : usesBlock j = true) :
    Brings (Job.ask (Provisioning.change s.stockNamed patch)) t m () t
      { m.bringUp with clusterObject := j } := by
  refine Brings.ask fun log => ⟨Provisioning.change s.stockNamed patch :: log, ?_⟩
  rw [Provisioning.serve_change (m := { m with log }) hpatch huses]
  exact congrArg (Prod.mk _) (MiniCluster.bringUp_of_other m _ j)

/-- A cluster in which the OSDs that waited for block devices are there. -/
structure Provisioned (m : MiniCluster) (devices : List Device) (m' : MiniCluster) : Prop where
  answering : Answering m'
  runs : Runs m' (devices ++ waiting m.pending)
  nodes : m'.nodes = m.nodes
  pending : m'.pending = []

theorem provisioned_bringUp (h : Answering m) (hr : Runs m devices)
    (hdistinct : ((devices ++ waiting m.pending).map Device.osd).Nodup)
    (hfew : (devices ++ waiting m.pending).length < UInt32.size) :
    Provisioned m devices m.bringUp := by
  have hruns := hr.bringUp hdistinct
  have hcount : m.bringUp.osds.members.length < UInt32.size := by
    rw [hruns.length_osds]
    exact hfew
  obtain ⟨ds, ps, os, hjoined, htoolbox, hpods⟩ := MiniCluster.joined_bringUp m
  rw [hjoined] at hruns hcount ⊢
  exact ⟨h.of_eq rfl rfl rfl rfl hcount htoolbox hpods, hruns, rfl, rfl⟩

/-- The first patch brings up the OSDs that wait, the second none any more. -/
theorem brings_enableBlock (h : Answering m) (hr : Runs m devices)
    (hobject : m.clusterObject = directoryObject)
    (hdistinct : ((devices ++ waiting m.pending).map Device.osd).Nodup)
    (hfew : (devices ++ waiting m.pending).length < UInt32.size) :
    ∃ m', Brings (Provisioning.enableBlock s.stockNamed) t m () t m' ∧
      Provisioned m devices m' := by
  obtain ⟨j, j', hj, huses, hj', huses'⟩ := patched_directoryObject
  have hfirst := brings_change (s := s) (t := t) (hobject ▸ hj) huses
  obtain ⟨hanswering, hruns, hnodes, hpending⟩ := provisioned_bringUp h hr hdistinct hfew
  have hsecond := brings_change (s := s) (t := t)
    (m := { m.bringUp with clusterObject := j }) hj' huses'
  rw [MiniCluster.bringUp_of_none (m := { m.bringUp with clusterObject := j }) hpending] at hsecond
  refine ⟨_, (hfirst.during _).bind ((hsecond.map (f := fun o => .ok o) rfl).bind (.pure ())), ?_⟩
  exact ⟨hanswering.of_eq rfl rfl rfl rfl hanswering.few rfl rfl, hruns.of_eq rfl rfl rfl rfl,
    hnodes, hpending⟩

/-! ## The operator -/

/-- A restart of the operator, if there is one, is no loss. -/
theorem brings_nudgeOperator (h : Answering m) (hr : Runs m devices) :
    ∃ m', Brings (Provisioning.nudgeOperator s.stockNamed) t m () t m' ∧ Answering m' ∧
      Runs m' devices ∧ m'.nodes = m.nodes := by
  have hcounts := brings_countHostsNow (s := s) (t := t) h hr
  by_cases hblock : 0 < (Osd.countHosts devices).block
  · refine ⟨m, hcounts.bind ?_, h, hr, rfl⟩
    simp only [hblock, if_true]
    exact .pure ()
  · refine ⟨m.deletePods "app=rook-ceph-operator", hcounts.bind ?_, ?_, hr.restartOperator, rfl⟩
    · simp only [hblock, if_false]
      exact (Brings.report _).bind (Brings.during _ (Brings.ask fun log => ⟨_ :: log, rfl⟩))
    · obtain ⟨_, hrestarted⟩ := MiniCluster.restarted_deletePods hr.toKept
      refine h.of_eq rfl rfl rfl rfl h.few (by rw [hrestarted.deployments]) ?_
      exact hrestarted.filter hr.toKept fun p hp => MiniCluster.Owner.selectedBy_toolbox hp

/-! ## Block hosts -/

/-- There are enough hosts with block devices already. -/
theorem brings_awaitBlockHosts (h : Answering m) (hr : Runs m devices) (hpolls : 1 ≤ polls)
    (hhosts : min m.nodes.length s.maxBlockHosts.toNat ≤ (Osd.hosts .block devices).length) :
    Brings (awaitBlockHosts ⟨s.stockNamed, polls⟩) t m () t m := by
  obtain ⟨n, rfl⟩ := Nat.exists_eq_add_of_le' hpolls
  have hnodes : Brings (Job.ask .listNodes) t m m.nodes t m := Brings.ask_same fun _ => rfl
  have hcount : Brings Osd.countNodes t m m.nodes.length t m :=
    (hnodes.during _).bind (.pure _)
  have hwanted : Brings (wantedBlockHostsNow s.stockNamed) t m
      (min m.nodes.length s.maxBlockHosts.toNat) t m := hcount.bind (.pure _)
  refine hwanted.bind ((Brings.start _ (Clock.reaches_none t)).bind (Brings.wait ?_))
  refine (Brings.guarded (by simp) (brings_countHostsNow h hr)).bind (.ofAttempt ?_)
  exact if_pos hhosts

/-- OSDs on block devices are brought into the cluster. -/
theorem brings_provision (h : Answering m) (hr : Runs m devices) (hpolls : 1 ≤ polls)
    (hobject : m.clusterObject = directoryObject)
    (hdistinct : ((devices ++ waiting m.pending).map Device.osd).Nodup)
    (hfew : (devices ++ waiting m.pending).length < UInt32.size)
    (hhosts : min m.nodes.length s.maxBlockHosts.toNat ≤
      (Osd.hosts .block (devices ++ waiting m.pending)).length) :
    ∃ m', Brings (Migration.provision ⟨s.stockNamed, polls⟩) t m () t m' ∧ Answering m' ∧
      Runs m' (devices ++ waiting m.pending) := by
  obtain ⟨enabled, henable, hanswering, hruns, hnodes, _⟩ :=
    brings_enableBlock (s := s) (t := t) h hr hobject hdistinct hfew
  obtain ⟨nudged, hnudge, hanswering', hruns', hnodes'⟩ :=
    brings_nudgeOperator (s := s) (t := t) hanswering hruns
  rw [← hnodes, ← hnodes'] at hhosts
  have hwait := brings_awaitBlockHosts (t := t) hanswering' hruns' hpolls hhosts
  exact ⟨nudged, (Brings.report _).bind ((henable.during _).bind ((hnudge.during _).bind
    ((Brings.report _).bind (hwait.during _)))), hanswering', hruns'⟩

end OsdMigration
