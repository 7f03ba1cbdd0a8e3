import OsdMigration.Osd.Inventory
import OsdMigration.Proofs.MiniCluster.Owner

set_option autoImplicit false

/-! # Clusters that run some OSDs

What a migration can see of the cluster in memory between two of its steps is a list of OSDs, each
with its host and its backing. A cluster runs such a list (`Runs`) if each of them has its pod, its
deployment and its place in Ceph's list, no other OSD has any of the three, and everything else that
is there runs too. Each operation of a migration is described by what it does to the list.
-/

namespace OsdMigration

open Cluster
open Osd (Device)

namespace MiniCluster

/-- The pod of an OSD. -/
def podOf (d : Device) : Pod := osdPod d.osd d.host (d.backing = .hostpath)

theorem labels_podOf (d : Device) : (podOf d).labels = osdLabels d.osd := rfl

/-- Every owner of a pod or of a deployment runs. -/
structure Kept (m : MiniCluster) : Prop where
  rollout : m.autoRollout = true
  pods : ∀ p ∈ m.pods, ∃ o : Owner, p.labels = o.labels
  deployments : ∀ name d, m.deployments.get? name = some d →
    ∃ o : Owner, name = o.deployment ∧ Owned o d ∧ Served o m.pods

/-- The OSDs of the cluster are those of the list. -/
structure Runs (m : MiniCluster) (devices : List Device) : Prop extends Kept m where
  distinct : (devices.map Device.osd).Nodup
  listed : m.pods.filter (fun p => p.selectedBy "app=rook-ceph-osd") = devices.map podOf
  deployed : ∀ n, m.deployments.get? (osdDeployment n) =
    (devices.find? fun d => d.osd = n).map fun d => deploymentFor (osdDeployment n) (podOf d) 1
  known : ∀ n, n ∈ m.osds ↔ n ∈ devices.map Device.osd

/-- The deployments are as they ask to be. -/
theorem mapValues_kept {m : MiniCluster} (h : Kept m) :
    (m.deployments.mapValues fun _ d => rolledOut d) = m.deployments := by
  refine NameMap.ext_get? fun k => ?_
  rw [NameMap.get?_mapValues]
  cases hget : m.deployments.get? k with
  | none => rfl
  | some d =>
      obtain ⟨o, _, ho, _⟩ := h.deployments k d hget
      rw [Option.map_some, rolledOut_owned ho]

/-! ## What is seen of the list -/

section

variable {m : MiniCluster} {devices : List Device}

/-- Among distinct OSDs each is the only one of its number. -/
theorem filter_osd (h : (devices.map Device.osd).Nodup) {d : Device} (hd : d ∈ devices) :
    (devices.filter fun d' => d'.osd = d.osd) = [d] := by
  induction devices with
  | nil => cases hd
  | cons x devices ih =>
      obtain ⟨hx, hrest⟩ := List.nodup_cons.1 h
      rcases List.mem_cons.1 hd with rfl | hd
      · have hnone : (devices.filter fun d' => d'.osd = d.osd) = [] :=
          List.filter_eq_nil_iff.2 fun d' hd' he =>
            hx (of_decide_eq_true he ▸ List.mem_map_of_mem hd')
        rw [List.filter_cons_of_pos (by simp), hnone]
      · have hne : x.osd ≠ d.osd := fun he => hx (he ▸ List.mem_map_of_mem hd)
        rw [List.filter_cons_of_neg (by simpa using hne), ih hrest hd]

theorem selectedBy_osds {p : Pod} {o : Owner} (h : p.labels = o.labels) :
    p.selectedBy "app=rook-ceph-osd" = decide (o.app = "rook-ceph-osd") :=
  Owner.selectedBy_app h (by decide +kernel)

theorem find?_eq_none {n : UInt32} (hn : n ∉ devices.map Device.osd) :
    (devices.find? fun d => d.osd = n) = none :=
  List.find?_eq_none.2 fun _ hd he => hn (of_decide_eq_true he ▸ List.mem_map_of_mem hd)

/-- The pods of an OSD. -/
theorem Runs.mine (h : Runs m devices) (n : UInt32) :
    mine n m.pods = (devices.filter fun d => d.osd = n).map podOf := by
  have hread : Text.uint32? "" = none := by decide +kernel
  have hfilter : MiniCluster.mine n m.pods =
      MiniCluster.mine n (m.pods.filter fun p => p.selectedBy "app=rook-ceph-osd") := by
    refine (mine_filter fun p hm => ?_).symm
    obtain ⟨hp, hn⟩ := mem_mine.1 hm
    obtain ⟨o, ho⟩ := h.pods p hp
    rw [selectedBy_osds ho]
    cases o with
    | osd n' => rfl
    | _ =>
        rw [Numbered, ho, Owner.get?_labels_number, Option.getD_none, hread] at hn
        cases hn
  rw [hfilter, h.listed, MiniCluster.mine, List.filter_map]
  congr 1
  refine List.filter_congr fun d _ => ?_
  simp only [Function.comp_apply, labels_podOf, numbered_osdLabels]

/-- An OSD of the list has its pod. -/
theorem Runs.mine_of_mem (h : Runs m devices) {d : Device} (hd : d ∈ devices) :
    MiniCluster.mine d.osd m.pods = [podOf d] := by
  rw [h.mine, filter_osd h.distinct hd]
  rfl

/-- Of an OSD that is not in the list nothing is there. -/
theorem Runs.nothing_of_not_mem (h : Runs m devices) {n : UInt32}
    (hn : n ∉ devices.map Device.osd) :
    MiniCluster.mine n m.pods = [] ∧ m.deployments.get? (osdDeployment n) = none := by
  constructor
  · rw [h.mine, List.filter_eq_nil_iff.2 (List.find?_eq_none.1 (find?_eq_none hn))]
    rfl
  · rw [h.deployed, find?_eq_none hn]
    rfl

/-- An OSD of the list has its deployment. -/
theorem Runs.deployment_of_mem (h : Runs m devices) {d : Device} (hd : d ∈ devices) :
    m.deployments.get? (osdDeployment d.osd) =
      some (deploymentFor (osdDeployment d.osd) (podOf d) 1) := by
  rw [h.deployed, ← List.head?_filter, filter_osd h.distinct hd]
  rfl

/-- Only deployments, pods, and what Ceph knows count. -/
theorem Runs.of_eq (h : Runs m devices) {m' : MiniCluster} (hd : m'.deployments = m.deployments)
    (hp : m'.pods = m.pods) (ho : m'.osds = m.osds) (hr : m'.autoRollout = m.autoRollout) :
    Runs m' devices := by
  obtain ⟨⟨hrollout, hpods, hdeployments⟩, hdistinct, hlisted, hdeployed, hknown⟩ := h
  refine ⟨⟨hr.trans hrollout, ?_, ?_⟩, hdistinct, ?_, ?_, ?_⟩
  · rwa [hp]
  · rwa [hd, hp]
  · rwa [hp]
  · rwa [hd]
  · rwa [ho]

/-- Ceph knows as many OSDs as the list has. -/
theorem Runs.length_osds (h : Runs m devices) : m.osds.members.length = devices.length := by
  have hnodup : m.osds.members.Nodup := m.osds.sorted.imp fun hlt => UInt32.ne_of_lt hlt
  have hperm : m.osds.members.Perm (devices.map Device.osd) :=
    (List.perm_ext_iff_of_nodup hnodup h.distinct).2 h.known
  rw [hperm.length_eq, List.length_map]

end

end MiniCluster

end OsdMigration
