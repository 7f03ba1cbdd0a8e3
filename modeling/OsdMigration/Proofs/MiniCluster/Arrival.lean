import OsdMigration.Proofs.MiniCluster.Running

set_option autoImplicit false

/-! # OSDs that arrive

A cluster that runs some OSDs gets more of them, one at a time (`Runs.withOsd`) or those that wait
for block devices all at once (`Runs.bringUp`). The toolbox, the operator, and a restart of the
operator (`Runs.restartOperator`) make no difference to the OSDs.
-/

namespace OsdMigration.MiniCluster

open Cluster
open Osd (Device)

variable {m : MiniCluster} {devices : List Device}

/-! ## What is added -/

theorem Kept.run (h : Kept m) {o : Owner} {pod : Pod} (hp : pod.labels = o.labels) :
    Kept (m.run o.deployment pod) where
  rollout := h.rollout
  pods := by
    intro p hm
    rcases List.mem_append.1 hm with hm | hm
    · exact h.pods p hm
    · rw [List.mem_singleton.1 hm]
      exact ⟨o, hp⟩
  deployments := by
    intro name d hd
    rw [MiniCluster.run, NameMap.get?_insert] at hd
    split at hd
    · cases hd
      exact ⟨o, ‹_›, ⟨pod, hp, rfl⟩, pod, List.mem_append_right _ (List.mem_singleton_self _), hp⟩
    · obtain ⟨o', hname, ho', hs⟩ := h.deployments name d hd
      exact ⟨o', hname, ho', hs.append [pod]⟩

/-- The toolbox or the operator is added. -/
theorem Runs.run_app (h : Runs m devices) {o : Owner} {pod : Pod} (hp : pod.labels = o.labels)
    (ho : o.app ≠ "rook-ceph-osd") : Runs (m.run o.deployment pod) devices where
  toKept := h.toKept.run hp
  distinct := h.distinct
  listed := by
    have hpod : pod.selectedBy "app=rook-ceph-osd" = false := by
      rw [selectedBy_osds hp, decide_eq_false ho]
    rw [MiniCluster.run, List.filter_append, h.listed, List.filter_cons_of_neg (by simp [hpod]),
      List.filter_nil, List.append_nil]
  deployed := by
    intro n
    have hne : osdDeployment n ≠ o.deployment := by
      rintro he
      obtain rfl : Owner.osd n = o := Owner.deployment_injective he
      exact ho rfl
    rw [MiniCluster.run, NameMap.get?_insert_of_ne _ _ hne, h.deployed]
  known := h.known

/-- Another OSD is added. -/
theorem Runs.withOsd (h : Runs m devices) (d : Device) (hd : d.osd ∉ devices.map Device.osd) :
    Runs (m.withOsd d.osd d.host (d.backing = .hostpath)) (devices ++ [d]) := by
  obtain ⟨hrollout, hpods, hdeployments⟩ := h.toKept.run (o := .osd d.osd) (labels_podOf d)
  refine ⟨⟨hrollout, hpods, hdeployments⟩, ?_, ?_, ?_, ?_⟩
  · rw [List.map_append, List.nodup_append]
    refine ⟨h.distinct, by simp, ?_⟩
    rintro n hn n' hn' rfl
    rw [List.map_singleton, List.mem_singleton] at hn'
    exact hd (hn' ▸ hn)
  · have hpod : (podOf d).selectedBy "app=rook-ceph-osd" = true := by
      rw [selectedBy_osds (o := .osd d.osd) (labels_podOf d)]
      rfl
    calc (m.withOsd d.osd d.host (d.backing = .hostpath)).pods.filter
          (fun p => p.selectedBy "app=rook-ceph-osd")
        = (m.pods ++ [podOf d]).filter (fun p => p.selectedBy "app=rook-ceph-osd") := rfl
      _ = devices.map podOf ++ [podOf d] := by
          rw [List.filter_append, h.listed]
          simp [hpod]
      _ = (devices ++ [d]).map podOf := by rw [List.map_append, List.map_singleton]
  · intro n
    have hget : (m.withOsd d.osd d.host (d.backing = .hostpath)).deployments.get?
        (osdDeployment n) = if osdDeployment n = osdDeployment d.osd then
          some (deploymentFor (osdDeployment d.osd) (podOf d) 1)
        else m.deployments.get? (osdDeployment n) := NameMap.get?_insert ..
    rw [hget, h.deployed, List.find?_append]
    by_cases hn : d.osd = n
    · subst hn
      simp [find?_eq_none hd]
    · have hne : osdDeployment n ≠ osdDeployment d.osd := fun he =>
        hn (osdDeployment_injective he).symm
      simp [hne, hn]
  · intro n
    have hmem : n ∈ m.osds.insert d.osd ↔ n = d.osd ∨ n ∈ m.osds := OsdSet.mem_insert
    refine hmem.trans ?_
    rw [h.known, List.map_append, List.mem_append, List.map_singleton, List.mem_singleton, or_comm]

/-- The OSDs that wait for block devices. -/
def waiting (pending : List (UInt32 × String)) : List Device :=
  pending.map fun q => ⟨q.1, q.2, .block⟩

/-- The OSDs that wait for block devices are added. -/
theorem Runs.bringUp (h : Runs m devices)
    (hp : ((devices ++ waiting m.pending).map Device.osd).Nodup) :
    Runs m.bringUp (devices ++ waiting m.pending) := by
  have hfold : ∀ (l : List (UInt32 × String)) (m : MiniCluster) (devices : List Device),
      Runs m devices → ((devices ++ waiting l).map Device.osd).Nodup →
      Runs (l.foldl (fun m q => m.withOsd q.1 q.2 false) m) (devices ++ waiting l) := by
    intro l
    induction l with
    | nil =>
        intro m devices h _
        simpa [waiting] using h
    | cons q l ih =>
        intro m devices h hp
        have hsplit : devices ++ waiting (q :: l) =
            devices ++ [(⟨q.1, q.2, .block⟩ : Device)] ++ waiting l := by
          simp [waiting]
        have hnew : q.1 ∉ devices.map Device.osd := by
          rw [List.map_append, List.nodup_append] at hp
          exact fun hm => hp.2.2 _ hm q.1 (by simp [waiting]) rfl
        rw [hsplit] at hp ⊢
        exact ih _ _ (h.withOsd ⟨q.1, q.2, .block⟩ hnew) hp
  refine hfold m.pending _ devices ?_ hp
  exact h.of_eq rfl rfl rfl rfl

/-- A cluster to which OSDs were added, and nothing else, neither from the toolbox. -/
def Joined (m m' : MiniCluster) : Prop :=
  ∃ ds ps os, m' = { m with deployments := ds, pods := ps, osds := os } ∧
    ds.get? "rook-ceph-tools" = m.deployments.get? "rook-ceph-tools" ∧
    ps.filter (fun p => p.selectedBy "app=rook-ceph-tools") =
      m.pods.filter fun p => p.selectedBy "app=rook-ceph-tools"

theorem Joined.withOsd {m' : MiniCluster} (h : Joined m m') (osd : UInt32) (host : String)
    (hostpath : Bool) : Joined m (m'.withOsd osd host hostpath) := by
  obtain ⟨ds, ps, os, rfl, hdeployment, hpods⟩ := h
  refine ⟨_, _, _, rfl, ?_, ?_⟩
  · have hne : "rook-ceph-tools" ≠ osdDeployment osd := ne_osdDeployment osd (by decide)
    exact (NameMap.get?_insert_of_ne _ _ hne).trans hdeployment
  · have hpod : (osdPod osd host hostpath).selectedBy "app=rook-ceph-tools" = false :=
      Owner.selectedBy_toolbox (o := .osd osd) rfl
    refine (List.filter_append ..).trans ?_
    rw [hpods]
    simp [hpod]

theorem joined_bringUp (m : MiniCluster) : Joined { m with pending := [] } m.bringUp :=
  List.foldlRecOn (motive := Joined { m with pending := [] }) m.pending _
    ⟨_, _, _, rfl, rfl, rfl⟩ fun _ h q _ => h.withOsd q.1 q.2 false

/-- What was noted before does not count, nor does the cluster object. -/
theorem bringUp_of_other (m : MiniCluster) (log : List Request) (j : Json) :
    ({ m with log, clusterObject := j } : MiniCluster).bringUp =
      { m.bringUp with log, clusterObject := j } := by
  have hfold : ∀ (l : List (UInt32 × String)) (m : MiniCluster),
      l.foldl (fun m q => m.withOsd q.1 q.2 false) { m with log, clusterObject := j } =
        { l.foldl (fun m q => m.withOsd q.1 q.2 false) m with log, clusterObject := j } := by
    intro l
    induction l with
    | nil => exact fun _ => rfl
    | cons q l ih => exact fun m => ih (m.withOsd q.1 q.2 false)
  exact hfold m.pending { m with pending := [] }

/-- Where no OSD waits, none is brought up. -/
theorem bringUp_of_none (h : m.pending = []) : m.bringUp = m := by
  obtain ⟨⟩ := m
  obtain rfl := h
  rfl

/-! ## The operator is restarted -/

/-- What is known of the cluster once the pods of the operator are gone and made again. -/
structure Restarted (m m' : MiniCluster) : Prop where
  deployments : m'.deployments = m.deployments
  pods : ∃ fresh : List Pod, (∀ p ∈ fresh, p.labels = Owner.operator.labels) ∧
    m'.pods = (m.pods.filter fun p => !p.selectedBy "app=rook-ceph-operator") ++ fresh

/-- Other pods are found as before. -/
theorem Restarted.filter {m' : MiniCluster} (h : Restarted m m') (hm : Kept m) {keep : Pod → Bool}
    (hkeep : ∀ p : Pod, p.labels = Owner.operator.labels → keep p = false) :
    m'.pods.filter keep = m.pods.filter keep := by
  obtain ⟨fresh, hfresh, hpods⟩ := h.pods
  have hnone : fresh.filter keep = [] :=
    List.filter_eq_nil_iff.2 fun p hp => by simp [hkeep p (hfresh p hp)]
  rw [hpods, List.filter_append, hnone, List.append_nil, List.filter_filter]
  refine List.filter_congr fun p hp => ?_
  obtain ⟨o, ho⟩ := hm.pods p hp
  rw [Owner.selectedBy_operator ho]
  by_cases hop : o = .operator
  · subst hop
    simp [hkeep p ho]
  · simp [hop]

theorem restarted_deletePods (h : Kept m) :
    Kept (m.deletePods "app=rook-ceph-operator") ∧
      Restarted m (m.deletePods "app=rook-ceph-operator") := by
  let kept := m.pods.filter fun p => !p.selectedBy "app=rook-ceph-operator"
  have hkept : ∀ p ∈ kept, ∃ o : Owner, p.labels = o.labels := fun p hp =>
    h.pods p (List.mem_filter.1 hp).1
  -- only the operator has lost its pods
  have hentries : ∀ q ∈ m.deployments.pairs,
      ∃ o, Owned o q.2 ∧ (Served o kept ∨ o = .operator) := by
    intro q hq
    obtain ⟨o, _, ho, p, hp, hlabels⟩ := h.deployments q.1 q.2 (NameMap.get?_eq_some_iff.2 hq)
    by_cases hne : o = .operator
    · exact ⟨o, ho, .inr hne⟩
    · refine ⟨o, ho, .inl ⟨p, List.mem_filter.2 ⟨hp, ?_⟩, hlabels⟩⟩
      rw [Owner.selectedBy_operator hlabels, decide_eq_false hne]
      rfl
  obtain ⟨fresh, hsettled, hfresh, hserved⟩ := settleAll_one_lost hkept hentries
  have hpods : (m.deletePods "app=rook-ceph-operator").pods = kept ++ fresh := hsettled
  have hdeployments : (m.deletePods "app=rook-ceph-operator").deployments = m.deployments := by
    have hrollout : m.autoRollout = true := h.rollout
    simp only [deletePods, reconcile, if_pos hrollout]
    exact mapValues_kept h
  refine ⟨⟨h.rollout, ?_, ?_⟩, hdeployments, fresh, hfresh, hpods⟩
  · rw [hpods]
    intro p hp
    rcases List.mem_append.1 hp with hp | hp
    · exact hkept p hp
    · exact ⟨_, hfresh p hp⟩
  · rw [hpods, hdeployments]
    intro name d hd
    obtain ⟨o, hname, ho, _⟩ := h.deployments name d hd
    obtain ⟨o', ho', hs⟩ := hserved _ (NameMap.get?_eq_some_iff.1 hd)
    exact ⟨o, hname, ho, ho.unique ho' ▸ hs⟩

/-- A restart of the operator leaves the OSDs alone. -/
theorem Runs.restartOperator (h : Runs m devices) :
    Runs (m.deletePods "app=rook-ceph-operator") devices := by
  obtain ⟨hkept, hrestarted⟩ := restarted_deletePods h.toKept
  refine ⟨hkept, h.distinct, ?_, ?_, h.known⟩
  · rw [hrestarted.filter h.toKept fun p hp => (selectedBy_osds hp).trans (by decide), h.listed]
  · rw [hrestarted.deployments]
    exact h.deployed

end OsdMigration.MiniCluster
