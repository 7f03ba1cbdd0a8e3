import Mathlib
import OsdMigration.Proofs.MiniCluster.Running

set_option autoImplicit false

/-! # An OSD that leaves

Of a cluster that runs some OSDs, one is scaled down, forgotten by Ceph, and its deployment deleted.
Scaling it down takes its pods and nobody else's (`patch_down`); in the end the cluster runs the
other OSDs (`Runs.without`).
-/

namespace OsdMigration.MiniCluster

open Cluster
open Osd (Device)

/-! ## The deployment that is scaled down -/

/-- A deployment that is asked for another number of pods. -/
def askedFor (n : Int) (d : Deployment) : Deployment :=
  { d with spec := d.spec.map fun spec => { spec with replicas := some n } }

/-- The deployment of an OSD is read back from its patched form, whatever its names are. -/
theorem patched_osd (name host : String) (osd : UInt32) (hostpath : Bool) :
    patched (deploymentFor name (osdPod osd host hostpath) 1) (scalePatch 0) =
      .ok (askedFor 0 (deploymentFor name (osdPod osd host hostpath) 1)) := by
  cases hostpath <;> cbv

/-- The deployment of an OSD that was scaled down. -/
def idle (d : Device) : Deployment :=
  rolledOut (askedFor 0 (deploymentFor (osdDeployment d.osd) (podOf d) 1))

theorem wanted?_idle (d : Device) : (idle d).wanted? = some 0 := rfl

theorem atScale_idle (d : Device) : (idle d).atScale 0 = true := rfl

/-- The cluster with an OSD scaled down. -/
def halted (m : MiniCluster) (d : Device) : MiniCluster :=
  { m with
    deployments := m.deployments.insert (osdDeployment d.osd) (idle d)
    pods := sparing d.osd m.pods }

/-- The cluster without an OSD. -/
def without (m : MiniCluster) (osd : UInt32) : MiniCluster :=
  { m with
    deployments := m.deployments.erase (osdDeployment osd)
    pods := sparing osd m.pods
    osds := m.osds.erase osd }

variable {m : MiniCluster} {devices : List Device} {d : Device}

/-- The deployments of others stay as they are. -/
theorem mapValues_insert (h : Kept m) (name : String) (d : Deployment) :
    (m.deployments.insert name d).mapValues (fun _ d => rolledOut d) =
      m.deployments.insert name (rolledOut d) := by
  refine NameMap.ext_get? fun k => ?_
  have hsame := congrArg (fun ds : NameMap Deployment => ds.get? k) (mapValues_kept h)
  simp only [NameMap.get?_mapValues] at hsame
  rw [NameMap.get?_mapValues, NameMap.get?_insert, NameMap.get?_insert]
  split
  · rfl
  · exact hsame

/-- An OSD is scaled down. -/
theorem patch_down (h : Runs m devices) (hd : d ∈ devices) :
    m.patch (osdDeployment d.osd) (scalePatch 0) = (.ok (), m.halted d) := by
  have hpatched : patched (deploymentFor (osdDeployment d.osd) (podOf d) 1) (scalePatch 0) =
      .ok (askedFor 0 (deploymentFor (osdDeployment d.osd) (podOf d) 1)) := patched_osd ..
  have hown : ∃ spec, (askedFor 0 (deploymentFor (osdDeployment d.osd) (podOf d) 1)).spec =
      some spec ∧ Own d.osd 0 spec := ⟨_, rfl, rfl, rfl⟩
  have hpods : settleAll (m.deployments.insert (osdDeployment d.osd)
      (askedFor 0 (deploymentFor (osdDeployment d.osd) (podOf d) 1))).pairs m.pods =
        sparing d.osd m.pods := by
    refine settleAll_one_scaled ?_ ⟨_, NameMap.get?_eq_some_iff.1 (NameMap.get?_insert_self ..), hown⟩
    intro q hq
    have hget := NameMap.get?_eq_some_iff.2 hq
    rw [NameMap.get?_insert] at hget
    split at hget
    · rw [← Option.some.inj hget]
      exact .inl hown
    · rename_i hne
      obtain ⟨o, hname, ho, hs⟩ := h.deployments _ _ hget
      exact .inr ⟨o, fun he => hne (hname.trans (congrArg Owner.deployment he)), ho, hs⟩
  simp only [MiniCluster.patch, h.deployment_of_mem hd, hpatched, reconcile, hpods,
    if_pos h.rollout, mapValues_insert h.toKept]
  rfl

/-- Its pods are gone. -/
theorem isUp_halted (m : MiniCluster) (d : Device) : (m.halted d).isUp d.osd = false := by
  have hselector : "app=rook-ceph-osd,ceph-osd-id=" ++ toString d.osd =
      Selector.encode (osdLabels d.osd) := by
    rw [Selector.encode, osdLabels_pairs]
    rfl
  rw [isUp, hselector]
  refine List.any_eq_false.2 fun p hp => ?_
  have hkept := (List.mem_filter.1 hp).2
  simpa using hkept

/-- Its deployment is deleted, after Ceph has forgotten it. -/
theorem delete_halted (m : MiniCluster) (d : Device) :
    ({ m.halted d with osds := m.osds.erase d.osd } : MiniCluster).delete (osdDeployment d.osd) =
      (.ok (), m.without d.osd) := by
  have hthere : (m.deployments.insert (osdDeployment d.osd) (idle d)).contains
      (osdDeployment d.osd) = true := by simp [NameMap.contains]
  have herase : (m.deployments.insert (osdDeployment d.osd) (idle d)).erase
      (osdDeployment d.osd) = m.deployments.erase (osdDeployment d.osd) := by
    refine NameMap.ext_get? fun k => ?_
    rw [NameMap.get?_erase, NameMap.get?_erase, NameMap.get?_insert]
    split
    · rfl
    · rfl
  simp only [MiniCluster.delete, halted, hthere, if_true, herase, without]

/-- The pods of the toolbox stay. -/
theorem toolbox_sparing (h : Kept m) (osd : UInt32) :
    (sparing osd m.pods).filter (fun p => p.selectedBy "app=rook-ceph-tools") =
      m.pods.filter fun p => p.selectedBy "app=rook-ceph-tools" := by
  rw [sparing, List.filter_filter]
  refine List.filter_congr fun p hp => ?_
  obtain ⟨o, ho⟩ := h.pods p hp
  have hown : p.selectedBy (Selector.encode (osdLabels osd)) = decide (o = .osd osd) :=
    Owner.selectedBy_encode ho (.osd osd)
  rw [Owner.selectedBy_toolbox ho, hown]
  cases o <;> simp

/-! ## The cluster that is left -/

/-- The devices that remain. -/
theorem sparing_podOf (devices : List Device) (osd : UInt32) :
    sparing osd (devices.map podOf) = (devices.filter fun d => d.osd ≠ osd).map podOf := by
  rw [sparing, List.filter_map]
  refine congrArg (List.map podOf) (List.filter_congr fun d _ => ?_)
  rw [Function.comp_apply, selectedBy_osdLabels (labels_podOf d)]
  simp

theorem find?_others (devices : List Device) (osd n : UInt32) :
    ((devices.filter fun d => d.osd ≠ osd).find? fun d => d.osd = n) =
      if n = osd then none else devices.find? fun d => d.osd = n := by
  induction devices with
  | nil => simp
  | cons d devices ih =>
      by_cases hd : d.osd = osd
      · rw [List.filter_cons_of_neg (by simpa using hd), ih]
        split
        · rfl
        · have hne : ¬ d.osd = n := fun he => ‹¬ n = osd› (he.symm.trans hd)
          rw [List.find?_cons_of_neg (by simpa using hne)]
      · rw [List.filter_cons_of_pos (by simpa using hd), List.find?_cons, List.find?_cons, ih]
        by_cases hn : d.osd = n
        · simp [hn, show ¬ n = osd from hn ▸ hd]
        · simp [hn]

/-- The cluster without an OSD runs the others. -/
theorem Runs.without (h : Runs m devices) (osd : UInt32) :
    Runs (m.without osd) (devices.filter fun d => d.osd ≠ osd) where
  rollout := h.rollout
  pods := fun p hp => h.pods p (List.mem_filter.1 hp).1
  -- the deployment of that OSD is gone, and the others do not look at its pods
  deployments := by
    intro name d hd
    rw [MiniCluster.without, NameMap.get?_erase] at hd
    split at hd
    · cases hd
    · rename_i hne
      obtain ⟨o, hname, ho, hs⟩ := h.deployments name d hd
      exact ⟨o, hname, ho, hs.sparing fun he => hne (hname.trans (congrArg Owner.deployment he))⟩
  distinct := h.distinct.sublist (List.filter_sublist.map _)
  listed := by
    calc (m.without osd).pods.filter (fun p => p.selectedBy "app=rook-ceph-osd")
        = sparing osd (m.pods.filter fun p => p.selectedBy "app=rook-ceph-osd") := by
          rw [MiniCluster.without, sparing, sparing, List.filter_filter, List.filter_filter]
          simp only [Bool.and_comm]
      _ = (devices.filter fun d => d.osd ≠ osd).map podOf := by rw [h.listed, sparing_podOf]
  deployed := by
    intro n
    rw [MiniCluster.without, NameMap.get?_erase, h.deployed, find?_others]
    by_cases hn : n = osd
    · subst hn
      simp
    · have hne : osdDeployment n ≠ osdDeployment osd := fun he => hn (osdDeployment_injective he)
      rw [if_neg hne, if_neg hn]
  known := by
    intro n
    have hmem : n ∈ m.osds.erase osd ↔ n ∈ m.osds ∧ n ≠ osd := OsdSet.mem_erase
    refine hmem.trans ?_
    rw [h.known]
    constructor
    · rintro ⟨hm, hn⟩
      obtain ⟨d, hd, rfl⟩ := List.mem_map.1 hm
      exact List.mem_map_of_mem (List.mem_filter.2 ⟨hd, by simpa using hn⟩)
    · intro hm
      obtain ⟨d, hd, rfl⟩ := List.mem_map.1 hm
      obtain ⟨hd, hn⟩ := List.mem_filter.1 hd
      exact ⟨List.mem_map_of_mem hd, by simpa using hn⟩

end OsdMigration.MiniCluster
