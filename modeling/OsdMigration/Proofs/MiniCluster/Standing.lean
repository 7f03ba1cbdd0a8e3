import OsdMigration.MiniCluster.Serve
import OsdMigration.Osd.Device
import OsdMigration.Proofs.MiniCluster.Pods

set_option autoImplicit false

/-! # Where one OSD stands

An OSD on a host directory starts with a pod, a deployment, and a place in Ceph's list. Each of the
three can be taken from it, on its own and in any order: its deployment is scaled down, Ceph forgets
it, its deployment is deleted. `Standing` says of a cluster which of them have happened to an OSD.
-/

namespace OsdMigration.MiniCluster

open Cluster

/-- The number of pods that the deployment of an OSD asks for. -/
def Scale (scaled : Prop) (n : Int) : Prop := scaled ∧ n = 0 ∨ ¬ scaled ∧ n = 1

theorem exists_scale (scaled : Prop) : ∃ n, Scale scaled n := by
  by_cases h : scaled
  · exact ⟨0, .inl ⟨h, rfl⟩⟩
  · exact ⟨1, .inr ⟨h, rfl⟩⟩

theorem Scale.unique {scaled : Prop} {m n : Int} (hm : Scale scaled m) (hn : Scale scaled n) :
    m = n := by
  rcases hm with ⟨hs, rfl⟩ | ⟨hs, rfl⟩
  · rcases hn with ⟨_, rfl⟩ | ⟨hs', _⟩
    · rfl
    · exact absurd hs hs'
  · rcases hn with ⟨hs', _⟩ | ⟨_, rfl⟩
    · exact absurd hs' hs
    · rfl

/-- The deployments of a cluster, as far as one OSD is concerned. -/
structure Deployed (osd : UInt32) (scaled deleted : Prop) (ds : NameMap Deployment) : Prop where
  fits : ∀ n, Scale scaled n → ∀ name d, ds.get? name = some d → Fits osd n (name, d)
  there : ds.contains (osdDeployment osd) = true ↔ ¬ deleted

/-- Where an OSD stands. -/
structure Standing (osd : UInt32) (scaled purged deleted : Prop) (m : MiniCluster) : Prop where
  deployed : Deployed osd scaled deleted m.deployments
  pods : ∀ p ∈ mine osd m.pods, p.labels = osdLabels osd ∧ Osd.mounts p hostDirectory = true
  running : mine osd m.pods = [] ↔ scaled
  known : osd ∈ m.osds ↔ ¬ purged
  pending : ∀ q ∈ m.pending, q.1 ≠ osd

variable {osd : UInt32} {scaled purged deleted : Prop}

/-! ## Deployments -/

namespace Deployed

variable {ds : NameMap Deployment}

theorem foreign (h : Deployed osd scaled deleted ds) {name : String} {d : Deployment}
    {spec : DeploymentSpec} (hn : name ≠ osdDeployment osd) (hd : ds.get? name = some d)
    (hs : d.spec = some spec) : Foreign osd spec := by
  obtain ⟨n, hscale⟩ := exists_scale scaled
  exact (h.fits n hscale name d hd).foreign hn spec hs

theorem insert_foreign (h : Deployed osd scaled deleted ds) {name : String} {d : Deployment}
    (hn : name ≠ osdDeployment osd) (hd : ∀ spec, d.spec = some spec → Foreign osd spec) :
    Deployed osd scaled deleted (ds.insert name d) where
  fits := by
    intro n hscale other d' hd'
    rw [NameMap.get?_insert] at hd'
    split at hd'
    · rename_i he
      cases hd'
      exact ⟨fun ho => absurd (he ▸ ho) hn, fun _ => hd⟩
    · exact h.fits n hscale other d' hd'
  there := by
    rw [NameMap.contains, NameMap.get?_insert_of_ne _ _ (Ne.symm hn)]
    exact h.there

/-- Its own deployment is put in. -/
theorem insert_own (h : Deployed osd scaled deleted ds) {scaled' : Prop} {d : Deployment}
    {spec : DeploymentSpec} {n : Int} (hs : d.spec = some spec) (ho : Own osd n spec)
    (hn : Scale scaled' n) : Deployed osd scaled' False (ds.insert (osdDeployment osd) d) where
  fits := by
    intro n' hscale other d' hd'
    rw [NameMap.get?_insert] at hd'
    split at hd'
    · rename_i he
      cases hd'
      rw [hscale.unique hn]
      exact ⟨fun _ => ⟨spec, hs, ho⟩, fun hne => absurd he hne⟩
    · rename_i hne
      exact ⟨fun he => absurd he hne, fun _ spec' hs' => h.foreign hne hd' hs'⟩
  there := by simp [NameMap.contains]

theorem erase_foreign (h : Deployed osd scaled deleted ds) {name : String}
    (hn : name ≠ osdDeployment osd) : Deployed osd scaled deleted (ds.erase name) where
  fits := by
    intro n hscale other d hd
    rw [NameMap.get?_erase] at hd
    split at hd
    · cases hd
    · exact h.fits n hscale other d hd
  there := by
    rw [NameMap.contains, NameMap.get?_erase, if_neg (Ne.symm hn)]
    exact h.there

/-- Its own deployment is taken out. -/
theorem erase_own (h : Deployed osd scaled deleted ds) :
    Deployed osd scaled True (ds.erase (osdDeployment osd)) where
  fits := by
    intro n hscale other d hd
    rw [NameMap.get?_erase] at hd
    split at hd
    · cases hd
    · exact h.fits n hscale other d hd
  there := by simp [NameMap.contains, NameMap.get?_erase]

theorem mapValues (h : Deployed osd scaled deleted ds) :
    Deployed osd scaled deleted (ds.mapValues fun _ d => rolledOut d) where
  fits := by
    intro n hscale name d hd
    rw [NameMap.get?_mapValues] at hd
    obtain ⟨d', hd', rfl⟩ := Option.map_eq_some_iff.1 hd
    have hf := h.fits n hscale name d' hd'
    constructor
    · rw [spec_rolledOut]
      exact hf.own
    · rw [spec_rolledOut]
      exact hf.foreign
  there := by
    rw [NameMap.contains, NameMap.get?_mapValues, Option.isSome_map]
    exact h.there

theorem fits_pairs (h : Deployed osd scaled deleted ds) {n : Int} (hn : Scale scaled n) :
    ∀ q ∈ ds.pairs, Fits osd n q :=
  fun q hq => h.fits n hn q.1 q.2 (NameMap.get?_eq_some_iff.2 hq)

end Deployed

/-! ## Reconciling -/

/-- Reconciling takes the pods of an OSD away just if its deployment was scaled down. -/
theorem standing_reconcile {m : MiniCluster} (hd : Deployed osd scaled deleted m.deployments)
    (hp : ∀ p ∈ mine osd m.pods, p.labels = osdLabels osd ∧ Osd.mounts p hostDirectory = true)
    (hrun : ¬ scaled → mine osd m.pods ≠ [])
    (hgone : scaled → mine osd m.pods = [] ∨ ¬ deleted) (hk : osd ∈ m.osds ↔ ¬ purged)
    (hpending : ∀ q ∈ m.pending, q.1 ≠ osd) : Standing osd scaled purged deleted m.reconcile := by
  have hds : Deployed osd scaled deleted m.reconcile.deployments := by
    unfold reconcile
    simp only
    split
    · exact hd.mapValues
    · exact hd
  have hlabels : ∀ p ∈ mine osd m.pods, p.labels = osdLabels osd := fun p hm => (hp p hm).1
  -- the pods depend on the scale of its own deployment only
  by_cases hs : scaled
  · have hmine : mine osd m.reconcile.pods = [] := by
      refine mine_settleAll_zero (hd.fits_pairs (.inl ⟨hs, rfl⟩)) hlabels ((hgone hs).imp_right ?_)
      intro hkept
      obtain ⟨d, hget⟩ := NameMap.contains_iff.1 (hd.there.2 hkept)
      exact ⟨d, NameMap.get?_eq_some_iff.1 hget⟩
    refine ⟨hds, ?_, ⟨fun _ => hs, fun _ => hmine⟩, hk, hpending⟩
    rw [hmine]
    exact fun p hm => absurd hm List.not_mem_nil
  · have hmine : mine osd m.reconcile.pods = mine osd m.pods :=
      mine_settleAll_one (hd.fits_pairs (.inr ⟨hs, rfl⟩)) hlabels (hrun hs)
    refine ⟨hds, ?_, ?_, hk, hpending⟩
    · rw [hmine]
      exact hp
    · rw [hmine]
      exact ⟨fun h => absurd h (hrun hs), fun h => absurd h hs⟩

namespace Standing

variable {m : MiniCluster}

/-- Only deployments, pods, and what Ceph knows count. -/
theorem of_eq (h : Standing osd scaled purged deleted m) {m' : MiniCluster}
    (hd : m'.deployments = m.deployments) (hp : m'.pods = m.pods) (ho : m'.osds = m.osds)
    (hpending : m'.pending = m.pending) : Standing osd scaled purged deleted m' := by
  refine ⟨?_, ?_, ?_, ?_, ?_⟩
  · rw [hd]
    exact h.deployed
  · rw [hp]
    exact h.pods
  · rw [hp]
    exact h.running
  · rw [ho]
    exact h.known
  · rw [hpending]
    exact h.pending

/-- Deployments that have nothing to do with the OSD come and go. -/
theorem reconcile_deployments (h : Standing osd scaled purged deleted m) {ds : NameMap Deployment}
    (hds : Deployed osd scaled deleted ds) :
    Standing osd scaled purged deleted (reconcile { m with deployments := ds }) :=
  standing_reconcile (m := { m with deployments := ds }) hds h.pods
    (fun hs hm => hs (h.running.1 hm)) (fun hs => .inl (h.running.2 hs)) h.known h.pending

end Standing

end OsdMigration.MiniCluster
