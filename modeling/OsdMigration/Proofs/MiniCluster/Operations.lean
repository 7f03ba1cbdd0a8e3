import OsdMigration.Proofs.MiniCluster.Standing

set_option autoImplicit false

/-! # Operations on the cluster in memory

What each operation does to where an OSD stands.
-/

namespace OsdMigration.MiniCluster

open Cluster

variable {osd : UInt32} {scaled purged deleted : Prop} {m : MiniCluster}

theorem osdDeployment_injective {a b : UInt32} (h : osdDeployment a = osdDeployment b) : a = b :=
  toString_injective (String.append_right_inj _ |>.1 h)

/-- The twelfth character tells a name from those of the deployments of OSDs. -/
theorem ne_osdDeployment {name : String} (osd : UInt32) (h : name.toList[11]? ≠ some 's') :
    name ≠ osdDeployment osd := by
  rintro rfl
  refine h ?_
  have hs : (osdDeployment osd).toList = "rook-ceph-osd-".toList ++ (toString osd).toList :=
    String.toList_append ..
  rw [hs, List.getElem?_append_left (by decide)]
  rfl

namespace Standing

/-- A pod with its deployment is added that has nothing to do with the OSD. -/
theorem run_foreign (h : Standing osd scaled purged deleted m) {name : String} {pod : Pod}
    (hn : name ≠ osdDeployment osd)
    (hd : ∀ spec, (deploymentFor name pod 1).spec = some spec → Foreign osd spec)
    (hp : ¬ Numbered osd pod.labels) : Standing osd scaled purged deleted (m.run name pod) where
  deployed := h.deployed.insert_foreign hn hd
  pods := by
    have hmine : mine osd (m.run name pod).pods = mine osd m.pods := mine_append_of_not hp
    rw [hmine]
    exact h.pods
  running := by
    have hmine : mine osd (m.run name pod).pods = mine osd m.pods := mine_append_of_not hp
    rw [hmine]
    exact h.running
  known := h.known
  pending := h.pending

/-- Another OSD is added. -/
theorem withOsd_other (h : Standing osd scaled purged deleted m) {other : UInt32}
    (hne : other ≠ osd) (host : String) (hostpath : Bool) :
    Standing osd scaled purged deleted (m.withOsd other host hostpath) := by
  have hrun : Standing osd scaled purged deleted
      (m.run (osdDeployment other) (osdPod other host hostpath)) := by
    refine h.run_foreign (fun he => hne (osdDeployment_injective he)) ?_ ?_
    · rintro spec hs
      cases hs
      exact foreign_osd rfl rfl hne
    · exact fun hn => hne (numbered_osdLabels.1 hn)
  refine ⟨hrun.deployed, hrun.pods, hrun.running, ?_, hrun.pending⟩
  have hmem : osd ∈ m.osds.insert other ↔ osd ∈ m.osds := by
    rw [OsdSet.mem_insert]
    exact ⟨fun h => h.resolve_left (Ne.symm hne), .inr⟩
  exact hmem.trans h.known

theorem mine_withOsd (h : Standing osd True True True m) (host : String) (hostpath : Bool) :
    mine osd (m.withOsd osd host hostpath).pods = [osdPod osd host hostpath] := by
  have hgone : mine osd m.pods = [] := h.running.2 trivial
  have hown : Numbered osd (osdPod osd host hostpath).labels := numbered_osdLabels.2 rfl
  calc mine osd (m.withOsd osd host hostpath).pods
      = mine osd (m.pods ++ [osdPod osd host hostpath]) := rfl
    _ = mine osd m.pods ++ [osdPod osd host hostpath] := by simp [mine, hown]
    _ = [osdPod osd host hostpath] := by rw [hgone, List.nil_append]

/-- An OSD that was not there is added, on a directory of its host. -/
theorem withOsd_self (h : Standing osd True True True m) (host : String) :
    Standing osd False False False (m.withOsd osd host true) where
  deployed := h.deployed.insert_own (n := 1) rfl ⟨rfl, rfl⟩ (.inr ⟨id, rfl⟩)
  pods := by
    rw [mine_withOsd h]
    intro p hp
    rw [List.mem_singleton.1 hp]
    refine ⟨rfl, ?_⟩
    rfl
  running := by
    rw [mine_withOsd h]
    simp
  known := by
    have hmem : osd ∈ m.osds.insert osd := OsdSet.mem_insert.2 (.inl rfl)
    exact ⟨fun _ => id, fun _ => hmem⟩
  pending := h.pending

theorem bringUp (h : Standing osd scaled purged deleted m) :
    Standing osd scaled purged deleted m.bringUp := by
  have hfold : ∀ (l : List (UInt32 × String)) (m : MiniCluster), (∀ q ∈ l, q.1 ≠ osd) →
      Standing osd scaled purged deleted m →
      Standing osd scaled purged deleted
        (l.foldl (fun m q => m.withOsd q.1 q.2 false) m) := by
    intro l
    induction l with
    | nil => exact fun m _ h => h
    | cons q l ih =>
        intro m hl h
        exact ih _ (fun q hq => hl q (List.mem_cons_of_mem _ hq))
          (h.withOsd_other (hl q List.mem_cons_self) q.2 false)
  refine hfold m.pending _ h.pending ?_
  exact ⟨h.deployed, h.pods, h.running, h.known, fun q hq => absurd hq List.not_mem_nil⟩

theorem patchObject (h : Standing osd scaled purged deleted m) (p : Json.Patch) :
    Standing osd scaled purged deleted (m.patchObject p).2 := by
  unfold MiniCluster.patchObject
  split
  · exact h
  · simp only
    split
    · refine Standing.bringUp ?_
      exact h.of_eq rfl rfl rfl rfl
    · exact h.of_eq rfl rfl rfl rfl

theorem create (h : Standing osd scaled purged deleted m) {d : Deployment}
    (hn : d.metadata.name.getD "" ≠ osdDeployment osd)
    (hd : ∀ spec, d.spec = some spec → Foreign osd spec) :
    Standing osd scaled purged deleted (m.create d).2 := by
  simp only [MiniCluster.create]
  split
  · exact h
  · exact h.reconcile_deployments (h.deployed.insert_foreign hn hd)

/-- Another deployment is scaled. -/
theorem patch_foreign (h : Standing osd scaled purged deleted m) {name : String}
    (hn : name ≠ osdDeployment osd) (n : Int) :
    Standing osd scaled purged deleted (m.patch name (scalePatch n)).2 := by
  unfold MiniCluster.patch
  split
  · exact h
  · rename_i d hget
    split
    · exact h
    · rename_i d' hd'
      obtain ⟨spec, spec', hs, hs', hr⟩ := patched_scale hd'
      refine h.reconcile_deployments (h.deployed.insert_foreign hn fun spec'' hs'' => ?_)
      rw [hs', Option.some.injEq] at hs''
      exact hs'' ▸ (h.deployed.foreign hn hget hs).rescaled hr

/-- Its own deployment is scaled down, if that succeeds. -/
theorem patch_own (h : Standing osd scaled purged deleted m) :
    (∃ f, m.patch (osdDeployment osd) (scalePatch 0) = (.error f, m)) ∨
      ∃ m', m.patch (osdDeployment osd) (scalePatch 0) = (.ok (), m') ∧
        Standing osd True purged deleted m' := by
  unfold MiniCluster.patch
  split
  · exact .inl ⟨_, rfl⟩
  · rename_i d hget
    split
    · exact .inl ⟨_, rfl⟩
    · rename_i d' hd'
      refine .inr ⟨_, rfl, ?_⟩
      obtain ⟨spec, spec', hs, hs', hr⟩ := patched_scale hd'
      obtain ⟨n, hn⟩ := exists_scale scaled
      obtain ⟨spec'', hs'', hown⟩ := (h.deployed.fits n hn _ d hget).own rfl
      obtain rfl : spec = spec'' := Option.some.inj (hs.symm.trans hs'')
      -- what can be patched is there, so it has not been deleted
      have hthere : ¬ deleted := h.deployed.there.1 (NameMap.contains_iff.2 ⟨d, hget⟩)
      have hds : Deployed osd True False (m.deployments.insert (osdDeployment osd) d') :=
        h.deployed.insert_own hs' ⟨hr.replicas, hr.owned.trans hown.owned⟩ (.inl ⟨trivial, rfl⟩)
      rw [← eq_false hthere] at hds
      exact standing_reconcile (m := { m with deployments := _ }) hds h.pods
        (fun hs => absurd trivial hs) (fun _ => .inr hthere) h.known h.pending

theorem delete_foreign (h : Standing osd scaled purged deleted m) {name : String}
    (hn : name ≠ osdDeployment osd) : Standing osd scaled purged deleted (m.delete name).2 := by
  unfold MiniCluster.delete
  split
  · exact ⟨h.deployed.erase_foreign hn, h.pods, h.running, h.known, h.pending⟩
  · exact h

/-- Its own deployment is deleted, if it is there. -/
theorem delete_own (h : Standing osd scaled purged deleted m) :
    (∃ f, m.delete (osdDeployment osd) = (.error f, m)) ∨
      ∃ m', m.delete (osdDeployment osd) = (.ok (), m') ∧
        Standing osd scaled purged True m' := by
  unfold MiniCluster.delete
  split
  · exact .inr ⟨_, rfl, h.deployed.erase_own, h.pods, h.running, h.known, h.pending⟩
  · exact .inl ⟨_, rfl⟩

/-- Pods of another application are deleted. -/
theorem deletePods (h : Standing osd scaled purged deleted m) {selector app : String}
    (hs : Selector.ofText selector = [.equals "app" app]) (hne : "rook-ceph-osd" ≠ app) :
    Standing osd scaled purged deleted (m.deletePods selector) := by
  have hmine : mine osd (m.pods.filter fun p => !p.selectedBy selector) = mine osd m.pods := by
    refine mine_filter fun p hp => ?_
    rw [selectedBy_app (h.pods p hp).1 hs, decide_eq_false hne]
    rfl
  refine standing_reconcile (m := { m with pods := _ }) h.deployed ?_ ?_ ?_ h.known h.pending
  · rw [hmine]
    exact h.pods
  · rw [hmine]
    exact fun hs hm => hs (h.running.1 hm)
  · rw [hmine]
    exact fun hs => .inl (h.running.2 hs)

/-- Ceph forgets an OSD. -/
theorem erase_other (h : Standing osd scaled purged deleted m) {other : UInt32}
    (hne : other ≠ osd) :
    Standing osd scaled purged deleted { m with osds := m.osds.erase other } := by
  refine ⟨h.deployed, h.pods, h.running, ?_, h.pending⟩
  have hmem : osd ∈ m.osds.erase other ↔ osd ∈ m.osds := by
    rw [OsdSet.mem_erase]
    exact ⟨And.left, fun hm => ⟨hm, Ne.symm hne⟩⟩
  exact hmem.trans h.known

theorem erase_self (h : Standing osd scaled purged deleted m) :
    Standing osd scaled True deleted { m with osds := m.osds.erase osd } := by
  refine ⟨h.deployed, h.pods, h.running, ?_, h.pending⟩
  have hmem : ¬ osd ∈ m.osds.erase osd := by
    rw [OsdSet.mem_erase]
    exact fun hm => hm.2 rfl
  exact ⟨fun hm => absurd hm hmem, fun ht => absurd trivial ht⟩

end Standing

end OsdMigration.MiniCluster
