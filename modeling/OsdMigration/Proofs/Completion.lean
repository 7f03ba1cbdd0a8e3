import OsdMigration.Proofs.Completion.Assembly
import OsdMigration.Proofs.Completion.Provision
import OsdMigration.Proofs.Inventory
import OsdMigration.Proofs.Resumption

set_option autoImplicit false

/-! # A migration that completes

Where nothing is in its way, a migration of a cluster that was built comes to its end: every OSD on
a host directory is removed, in the order of the numbers, the OSDs that waited for block devices are
there, and nothing happened to the others. A second migration finds nothing to do
(`Resumption.completes`). The cluster between two removals is known by the list of the OSDs that it
runs, so a removal is a step from one list to a shorter one.
-/

namespace OsdMigration

open Cluster
open Job (Brings)
open MiniCluster (Answering Healthy Runs deploymentFor mine osdDeployment osdPod podOf waiting)
open Osd (Device)

variable {s : Settings} {polls t : Nat} {m : MiniCluster} {devices : List Device}

/-! ## OSDs on host directories -/

/-- Where no OSD is on a host directory, no host has one. -/
theorem countHosts_hostpath_of_none (h : ∀ d ∈ devices, d.backing ≠ .hostpath) :
    (Osd.countHosts devices).hostpath = 0 := by
  have hnone : (devices.filter fun d => d.backing = .hostpath) = [] :=
    List.filter_eq_nil_iff.2 fun d hd => by simpa using h d hd
  rw [Osd.countHosts, Osd.hosts, hnone]
  rfl

theorem onHostpath_append_waiting (devices : List Device) (pending : List (UInt32 × String)) :
    Osd.onHostpath (devices ++ waiting pending) = Osd.onHostpath devices := by
  have hnone : ((waiting pending).filter fun d => d.backing = .hostpath) = [] := by
    refine List.filter_eq_nil_iff.2 fun d hd => ?_
    obtain ⟨q, _, rfl⟩ := List.mem_map.1 hd
    simp
  rw [Osd.onHostpath, List.filter_append, hnone, List.append_nil, Osd.onHostpath]

/-- Of distinct OSDs those on host directories are known by their numbers. -/
theorem osd_mem_onHostpath (h : (devices.map Device.osd).Nodup) {d : Device} (hd : d ∈ devices) :
    d.osd ∈ Osd.onHostpath devices ↔ d.backing = .hostpath := by
  rw [Osd.mem_onHostpath]
  constructor
  · rintro ⟨d', hd', hosd, hb⟩
    have hm : d' ∈ devices.filter fun d' => d'.osd = d.osd :=
      List.mem_filter.2 ⟨hd', decide_eq_true hosd⟩
    rw [MiniCluster.filter_osd h hd, List.mem_singleton] at hm
    exact hm ▸ hb
  · exact fun hb => ⟨d, hd, rfl, hb⟩

theorem nodup_onHostpath (h : (devices.map Device.osd).Nodup) :
    (Osd.onHostpath devices).mergeSort.Nodup :=
  (List.mergeSort_perm ..).nodup_iff.2 (h.sublist (List.filter_sublist.map _))

/-- The numbers of distinct OSDs, once sorted, go up. -/
theorem ascending_onHostpath (h : (devices.map Device.osd).Nodup) :
    (Osd.onHostpath devices).mergeSort.Pairwise (· < ·) := by
  have hle : (Osd.onHostpath devices).mergeSort.Pairwise fun a b => decide (a ≤ b) = true :=
    List.pairwise_mergeSort (by simpa using fun a b c => UInt32.le_trans)
      (by simpa using UInt32.le_total) _
  exact hle.imp₂ (fun _ _ hab hne => UInt32.lt_of_le_of_ne (of_decide_eq_true hab) hne)
    (nodup_onHostpath h)

/-! ## The migration -/

/-- The clock goes on for all the time that a migration gives its waits, if it begins at an instant
and removes so many OSDs. -/
structure Context.InTime (c : Context) (now removals : Nat) : Prop where
  health : Clock.Reaches now (some (Settings.seconds c.settings.healthTimeout))
  removals : c.Lasts (now + c.confirming) removals

theorem brings_prepare (h : Answering m) (hc : Context.Ample ⟨s.stockNamed, polls⟩)
    (hclock : Clock.Reaches t (some (Settings.seconds s.healthTimeout))) :
    Brings (Migration.prepare ⟨s.stockNamed, polls⟩) t m ()
      (t + Context.confirming ⟨s.stockNamed, polls⟩) m := by
  obtain ⟨status, hverdict, _, _, hstatus⟩ := brings_fetchStatus (s := s) polls h
  have htime : ∀ d ∈ some (Settings.seconds s.stockNamed.healthTimeout),
      Context.confirming ⟨s.stockNamed, polls⟩ < d := by
    intro d hd
    obtain rfl := Option.some.inj hd
    exact hc.healthTime
  have hhealth := brings_awaitHealth hstatus hverdict hc.healthPolls htime hclock
  exact (Brings.report _).bind (((brings_ensureReady h).during _).bind (hhealth.during _))

/-- Without OSDs on host directories there is nothing to do. -/
theorem brings_migrate_none (h : Answering m) (hr : Runs m devices)
    (hc : Context.Ample ⟨s.stockNamed, polls⟩)
    (hclock : Clock.Reaches t (some (Settings.seconds s.healthTimeout)))
    (hnone : ∀ d ∈ devices, d.backing ≠ .hostpath) :
    Brings (migrate ⟨s.stockNamed, polls⟩) t m .notRequired
      (t + Context.confirming ⟨s.stockNamed, polls⟩) m := by
  refine (brings_prepare h hc hclock).bind ((Brings.report _).bind
    (((brings_countHostsNow h hr).during _).bind ?_))
  rw [if_pos (countHosts_hostpath_of_none hnone)]
  exact (Brings.report _).bind (.pure _)

/-- All OSDs on host directories are removed. -/
theorem brings_drain (h : Answering m) (hr : Runs m devices)
    (hc : Context.Ample ⟨s.stockNamed, polls⟩)
    (hlasts : Context.Lasts ⟨s.stockNamed, polls⟩ t (Osd.onHostpath devices).length) :
    ∃ later m', Brings (Migration.drain ⟨s.stockNamed, polls⟩) t m
        (Osd.onHostpath devices).mergeSort later m' ∧ Answering m' ∧
      Runs m' (devices.filter fun d => d.backing ≠ .hostpath) := by
  have hrunning : ∀ n ∈ (Osd.onHostpath devices).mergeSort, n ∈ devices.map Device.osd := by
    intro n hn
    obtain ⟨d, hd, rfl, _⟩ := Osd.mem_onHostpath.1 (List.mem_mergeSort.1 hn)
    exact List.mem_map_of_mem hd
  have hlength : (Osd.onHostpath devices).mergeSort.length = (Osd.onHostpath devices).length :=
    List.length_mergeSort _
  rw [← hlength] at hlasts
  obtain ⟨later, m', hremove, hanswering, hruns⟩ :=
    Removal.brings_removeAll h hr hc (nodup_onHostpath hr.distinct) hrunning hlasts
  have hleft : (devices.filter fun d => d.osd ∉ (Osd.onHostpath devices).mergeSort) =
      devices.filter fun d => d.backing ≠ .hostpath :=
    List.filter_congr fun d hd => by
      simp only [List.mem_mergeSort, osd_mem_onHostpath hr.distinct hd]
  rw [hleft] at hruns
  exact ⟨later, m', (Brings.report _).bind (((brings_hostpathOsds h hr).during _).bind
    ((Brings.report _).bind (hremove.bind (.pure _)))), hanswering, hruns⟩

/-- With some OSD on a host directory, all of them are removed. -/
theorem brings_migrate (h : Answering m) (hr : Runs m devices)
    (hc : Context.Ample ⟨s.stockNamed, polls⟩)
    (htime : Context.InTime ⟨s.stockNamed, polls⟩ t (Osd.onHostpath devices).length)
    (hsome : ∃ d ∈ devices, d.backing = .hostpath)
    (hobject : m.clusterObject = MiniCluster.directoryObject)
    (hdistinct : ((devices ++ waiting m.pending).map Device.osd).Nodup)
    (hfew : (devices ++ waiting m.pending).length < UInt32.size)
    (hhosts : min m.nodes.length s.maxBlockHosts.toNat ≤
      (Osd.hosts .block (devices ++ waiting m.pending)).length) :
    ∃ later m', Brings (migrate ⟨s.stockNamed, polls⟩) t m
        (.removed (Osd.onHostpath devices).mergeSort) later m' ∧ Answering m' ∧
      Runs m' ((devices ++ waiting m.pending).filter fun d => d.backing ≠ .hostpath) := by
  have hprepare := brings_prepare h hc htime.health
  obtain ⟨provisioned, hprovision, hanswering, hruns⟩ := brings_provision
    (t := t + Context.confirming ⟨s.stockNamed, polls⟩) h hr hc.one_le_polls hobject hdistinct hfew
    hhosts
  have hlasts := htime.removals
  rw [← onHostpath_append_waiting devices m.pending] at hlasts
  obtain ⟨later, m', hdrain, hanswering', hruns'⟩ := brings_drain hanswering hruns hc hlasts
  rw [onHostpath_append_waiting] at hdrain
  have hcount : ¬ (Osd.countHosts devices).hostpath = 0 := by
    obtain ⟨d, hd, hb⟩ := hsome
    exact fun hzero => Osd.no_hostpath_of_count hzero hd hb
  refine ⟨later, m', hprepare.bind ((Brings.report _).bind
    (((brings_countHostsNow h hr).during _).bind ?_)), hanswering', hruns'⟩
  rw [if_neg hcount]
  exact (Brings.report _).bind (hprovision.bind (hdrain.bind ((Brings.report _).bind (.pure _))))

/-! ## Two runs -/

/-- The OSDs that a layout begins with. -/
theorem Layout.mem_devices {l : Layout} {d : Device} :
    d ∈ l.devices ↔ ∃ hostpath, .osd d.osd d.host hostpath ∈ l.pieces ∧
      d.backing = if hostpath then .hostpath else .block := by
  rw [Layout.devices, List.mem_flatMap]
  constructor
  · rintro ⟨piece, hp, hd⟩
    cases piece with
    | osd n host hostpath =>
        obtain rfl := List.mem_singleton.1 hd
        exact ⟨hostpath, hp, rfl⟩
    | _ => cases hd
  · rintro ⟨hostpath, hp, hb⟩
    refine ⟨_, hp, List.mem_singleton.2 ?_⟩
    rw [← hb]

namespace Resumption

/-- Nothing is in the way of two runs. -/
structure Undisturbed (r : Resumption) : Prop where
  faults : r.faults = .none
  cancelAt : r.cancelAt = none
  cancelAgainAt : r.cancelAgainAt = none
  toolbox : (r.layout.pieces.map Piece.toolboxes).sum = 1
  reports : ∀ report, .report report ∈ r.layout.pieces → Healthy report
  /-- Ceph's counts have 32 bits, so not every number of an OSD can be in use. -/
  few : (r.layout.pieces.flatMap Piece.osds).length < UInt32.size
  /-- The hosts with block devices that are waited for are among those that there will be. -/
  hosts : min r.layout.cluster.nodes.length r.settings.maxBlockHosts.toNat ≤
    (Osd.hosts .block (r.layout.devices ++ waiting r.layout.cluster.pending)).length
  ample : r.context.Ample

/-- Both runs come to their end before the clock does, with all that their waits may take. -/
structure InTime (r : Resumption) : Prop where
  first : r.context.InTime r.now (Osd.onHostpath r.layout.devices).length
  second : Clock.Reaches r.later (some (Settings.seconds r.settings.healthTimeout))

/-- What a first run that removes OSDs leaves. -/
structure Completed (r : Resumption) (removed : List UInt32) : Prop where
  outcome : r.first.1 = .done (.ok (.removed removed))
  ascending : removed.Pairwise (· < ·)
  onHostpath : ∀ n, n ∈ removed ↔ ∃ host, .osd n host true ∈ r.layout.pieces
  known : ∀ n, n ∈ r.first.2.server.cluster.osds ↔
    (n ∈ r.layout.cluster.osds ∨ n ∈ r.layout.cluster.pending.map Prod.fst) ∧ n ∉ removed
  gone : ∀ n ∈ removed, mine n r.first.2.server.cluster.pods = [] ∧
    r.first.2.server.cluster.deployments.get? (osdDeployment n) = none
  kept : ∀ n ∈ r.layout.cluster.osds, n ∉ removed → ∃ pod deployment,
    mine n r.layout.cluster.pods = [pod] ∧
    mine n r.first.2.server.cluster.pods = [pod] ∧
    r.layout.cluster.deployments.get? (osdDeployment n) = some deployment ∧
    r.first.2.server.cluster.deployments.get? (osdDeployment n) = some deployment
  joined : ∀ q ∈ r.layout.cluster.pending,
    mine q.1 r.first.2.server.cluster.pods = [osdPod q.1 q.2 false] ∧
    r.first.2.server.cluster.deployments.get? (osdDeployment q.1) =
      some (deploymentFor (osdDeployment q.1) (osdPod q.1 q.2 false) 1)

/-- A job on a cluster to which nothing else happens. -/
theorem run_undisturbed {α : Type} {job : Job α} {a : α} {later : Nat} {start m' : MiniCluster}
    {log : List Request} (hstart : start = { m with log }) (h : Answering m)
    (hb : Brings job t m a later m') :
    ∃ log' underWay seen,
      job.attempt.run Rehearsal.server none ⟨t, Faults.none.rehearsal start, []⟩ =
        (.done (.ok a), ⟨later, .calm m' log' underWay, seen⟩) := by
  have hcalm : Faults.none.rehearsal start = .calm m log none := by
    have hm : { start with replies := .empty, listingFaults := [], hangCommands := false } =
        { m with log } := by
      rw [hstart, ← h.replies, ← h.listings, ← h.answers]
    exact congrArg (fun m => (⟨m, .empty, [], none⟩ : Rehearsal)) hm
  rw [hcalm]
  exact hb.run log none

variable {r : Resumption}

theorem Undisturbed.assembled (h : r.Undisturbed) :
    Assembled r.layout.devices 1 [] r.layout.cluster :=
  h.toolbox ▸ r.layout.assembled h.few h.reports

/-- The first run, if the migration comes to a result. -/
theorem Undisturbed.first (h : r.Undisturbed) {outcome : Migration.Outcome} {later : Nat}
    {m' : MiniCluster}
    (hb : Brings (migrate r.context) r.now r.layout.cluster outcome later m') :
    r.first.1 = .done (.ok outcome) ∧ ∃ log, r.first.2.server.cluster = { m' with log } := by
  obtain ⟨log, underWay, seen, hrun⟩ := run_undisturbed rfl h.assembled.answering hb
  rw [Resumption.first, h.faults, h.cancelAt, hrun]
  exact ⟨rfl, log, rfl⟩

/-- The second run, if the first one left no OSD on a host directory. -/
theorem Undisturbed.second (h : r.Undisturbed)
    (hclock : Clock.Reaches r.later (some (Settings.seconds r.settings.healthTimeout)))
    {m' : MiniCluster} {log : List Request}
    (hfirst : r.first.2.server.cluster = { m' with log }) (hanswering : Answering m')
    (hruns : Runs m' devices) (hnone : ∀ d ∈ devices, d.backing ≠ .hostpath) :
    r.second.1 = .done (.ok .notRequired) ∧
      ∃ log, r.second.2.server.cluster = { r.first.2.server.cluster with log } := by
  have hb := brings_migrate_none hanswering hruns h.ample hclock hnone
  obtain ⟨log', underWay, seen, hrun⟩ := run_undisturbed hfirst hanswering hb
  rw [Resumption.second, h.cancelAgainAt, Resumption.context, hrun, hfirst]
  exact ⟨rfl, log', rfl⟩

theorem onHostpath_layout (l : Layout) (n : UInt32) :
    n ∈ (Osd.onHostpath l.devices).mergeSort ↔ ∃ host, .osd n host true ∈ l.pieces := by
  rw [List.mem_mergeSort, Osd.mem_onHostpath]
  constructor
  · rintro ⟨d, hd, rfl, hb⟩
    obtain ⟨hostpath, hp, hbacking⟩ := Layout.mem_devices.1 hd
    cases hostpath with
    | true => exact ⟨d.host, hp⟩
    | false => exact absurd (hbacking.symm.trans hb) (by decide)
  · rintro ⟨host, hp⟩
    exact ⟨⟨n, host, .hostpath⟩, Layout.mem_devices.2 ⟨true, hp, rfl⟩, rfl, rfl⟩

/-- Without OSDs on host directories the first run changes nothing. -/
theorem Undisturbed.first_of_none (h : r.Undisturbed) (ht : r.InTime)
    (hnone : ¬ ∃ n host, .osd n host true ∈ r.layout.pieces) :
    (∀ d ∈ r.layout.devices, d.backing ≠ .hostpath) ∧ r.first.1 = .done (.ok .notRequired) ∧
      ∃ log, r.first.2.server.cluster = { r.layout.cluster with log } := by
  have hbacking : ∀ d ∈ r.layout.devices, d.backing ≠ .hostpath := by
    intro d hd hb
    have hm : d.osd ∈ (Osd.onHostpath r.layout.devices).mergeSort :=
      List.mem_mergeSort.2 (Osd.mem_onHostpath.2 ⟨d, hd, rfl, hb⟩)
    obtain ⟨host, hp⟩ := (onHostpath_layout r.layout d.osd).1 hm
    exact hnone ⟨d.osd, host, hp⟩
  have hassembled := h.assembled
  have hb :=
    brings_migrate_none hassembled.answering hassembled.runs h.ample ht.first.health hbacking
  exact ⟨hbacking, h.first hb⟩

/-- The OSDs that there are in the end. -/
def left (r : Resumption) : List Device :=
  (r.layout.devices ++ waiting r.layout.cluster.pending).filter fun d => d.backing ≠ .hostpath

/-- With OSDs on host directories the first run removes them all. -/
theorem Undisturbed.first_of_some (h : r.Undisturbed) (ht : r.InTime)
    (hsome : ∃ n host, .osd n host true ∈ r.layout.pieces) :
    ∃ m' log, Answering m' ∧ Runs m' r.left ∧
      r.first.1 = .done (.ok (.removed (Osd.onHostpath r.layout.devices).mergeSort)) ∧
      r.first.2.server.cluster = { m' with log } := by
  obtain ⟨n, host, hp⟩ := hsome
  have hbacking : ∃ d ∈ r.layout.devices, d.backing = .hostpath :=
    ⟨⟨n, host, .hostpath⟩, Layout.mem_devices.2 ⟨true, hp, rfl⟩, rfl⟩
  have hassembled := h.assembled
  have hdistinct := hassembled.distinct
  have hfew := hassembled.few
  rw [List.nil_append] at hdistinct hfew
  rw [List.length_map] at hfew
  obtain ⟨later, m', hb, hanswering, hruns⟩ := brings_migrate hassembled.answering hassembled.runs
    h.ample ht.first hbacking hassembled.object hdistinct hfew h.hosts
  obtain ⟨hok, log, hcluster⟩ := h.first hb
  exact ⟨m', log, hanswering, hruns, hok, hcluster⟩

/-- What is left is what there was, with what waited, and without what was removed. -/
theorem Undisturbed.mem_left (h : r.Undisturbed) {d : Device} :
    d ∈ r.left ↔ (d ∈ r.layout.devices ∨ d ∈ waiting r.layout.cluster.pending) ∧
      d.osd ∉ (Osd.onHostpath r.layout.devices).mergeSort := by
  have hdistinct := h.assembled.distinct
  rw [List.nil_append] at hdistinct
  rw [left, List.mem_filter, List.mem_append, List.mem_mergeSort, decide_eq_true_eq]
  refine and_congr_right fun hd => not_congr ?_
  rw [← onHostpath_append_waiting _ r.layout.cluster.pending]
  exact (osd_mem_onHostpath hdistinct (List.mem_append.2 hd)).symm

theorem Undisturbed.mem_osds_left (h : r.Undisturbed) (n : UInt32) :
    n ∈ r.left.map Device.osd ↔
      (n ∈ r.layout.cluster.osds ∨ n ∈ r.layout.cluster.pending.map Prod.fst) ∧
        n ∉ (Osd.onHostpath r.layout.devices).mergeSort := by
  have hwaiting : r.layout.cluster.pending.map Prod.fst =
      (waiting r.layout.cluster.pending).map Device.osd := by
    simp [waiting]
  rw [h.assembled.runs.known, hwaiting]
  constructor
  · intro hm
    obtain ⟨d, hd, rfl⟩ := List.mem_map.1 hm
    obtain ⟨hthere, hkept⟩ := h.mem_left.1 hd
    exact ⟨hthere.imp List.mem_map_of_mem List.mem_map_of_mem, hkept⟩
  · rintro ⟨hthere, hkept⟩
    rcases hthere with hm | hm
    · obtain ⟨d, hd, rfl⟩ := List.mem_map.1 hm
      exact List.mem_map_of_mem (h.mem_left.2 ⟨.inl hd, hkept⟩)
    · obtain ⟨d, hd, rfl⟩ := List.mem_map.1 hm
      exact List.mem_map_of_mem (h.mem_left.2 ⟨.inr hd, hkept⟩)

/-- What the cluster runs after the removals is what is promised of them. -/
theorem Undisturbed.completed (h : r.Undisturbed) {m' : MiniCluster} {log : List Request}
    (hruns : Runs m' r.left)
    (hok : r.first.1 = .done (.ok (.removed (Osd.onHostpath r.layout.devices).mergeSort)))
    (hcluster : r.first.2.server.cluster = { m' with log }) :
    r.Completed (Osd.onHostpath r.layout.devices).mergeSort := by
  have hbegin := h.assembled.runs
  have hmem := h.mem_osds_left
  refine ⟨hok, ascending_onHostpath hbegin.distinct, onHostpath_layout r.layout, ?_, ?_, ?_, ?_⟩
  all_goals rw [hcluster]
  · exact fun n => (hruns.known n).trans (hmem n)
  · exact fun n hn => hruns.nothing_of_not_mem fun hm => ((hmem n).1 hm).2 hn
  · intro n hn hkept
    obtain ⟨d, hd, rfl⟩ := List.mem_map.1 ((hbegin.known n).1 hn)
    have hleft := h.mem_left.2 ⟨.inl hd, hkept⟩
    exact ⟨podOf d, _, hbegin.mine_of_mem hd, hruns.mine_of_mem hleft,
      hbegin.deployment_of_mem hd, hruns.deployment_of_mem hleft⟩
  · intro q hq
    have hd : (⟨q.1, q.2, .block⟩ : Device) ∈ waiting r.layout.cluster.pending :=
      List.mem_map_of_mem hq
    have hleft : (⟨q.1, q.2, .block⟩ : Device) ∈ r.left :=
      List.mem_filter.2 ⟨List.mem_append_right _ hd, rfl⟩
    have hmine := hruns.mine_of_mem hleft
    have hdeployed := hruns.deployment_of_mem hleft
    exact ⟨hmine, hdeployed⟩

/-- Where nothing is in the way, a migration removes all OSDs on host directories, in the order of
their numbers, and leaves the others alone; without OSDs on host directories it is not required, as
it never is when it is run again. -/
theorem completes (r : Resumption) (h : r.Undisturbed) (ht : r.InTime) :
    ((∃ n host, .osd n host true ∈ r.layout.pieces) → ∃ removed, r.Completed removed) ∧
    ((¬ ∃ n host, .osd n host true ∈ r.layout.pieces) → r.first.1 = .done (.ok .notRequired)) ∧
    r.second.1 = .done (.ok .notRequired) ∧
    ∃ log, r.second.2.server.cluster = { r.first.2.server.cluster with log } := by
  by_cases hsome : ∃ n host, .osd n host true ∈ r.layout.pieces
  · obtain ⟨m', log, hanswering, hruns, hok, hcluster⟩ := h.first_of_some ht hsome
    have hnone : ∀ d ∈ r.left, d.backing ≠ .hostpath := fun d hd =>
      of_decide_eq_true (List.mem_filter.1 hd).2
    exact ⟨fun _ => ⟨_, h.completed hruns hok hcluster⟩, fun hn => absurd hsome hn,
      h.second ht.second hcluster hanswering hruns hnone⟩
  · obtain ⟨hnone, hok, log, hcluster⟩ := h.first_of_none ht hsome
    exact ⟨fun hs => absurd hs hsome, fun _ => hok,
      h.second ht.second hcluster h.assembled.answering h.assembled.runs hnone⟩

/-- Two OSDs on host directories, one on a block device, and one that waits for a block device. -/
def twoHostpath : Resumption where
  settings := Settings.standard
  polls := 100
  layout := {
    pieces := [.nodes ["node-1", "node-2"], .toolbox, .operator "rook/ceph:v1.0.4",
      .osd 3 "10.0.0.1" true, .osd 0 "10.0.0.2" true, .osd 1 "10.0.0.1" false,
      .pending [(2, "10.0.0.2")]]
    distinct := by decide }
  faults := .none
  cancelAt := none
  now := 0
  cancelAgainAt := none
  later := 0

theorem undisturbed_twoHostpath : twoHostpath.Undisturbed where
  faults := rfl
  cancelAt := rfl
  cancelAgainAt := rfl
  toolbox := rfl
  reports := by simp [twoHostpath]
  few := by decide
  hosts := by decide +kernel
  ample := ⟨by decide, by decide, by decide, by decide, by decide⟩

theorem completes_twoHostpath :
    (∃ removed, twoHostpath.Completed removed) ∧
      twoHostpath.second.1 = .done (.ok .notRequired) := by
  have hclock : twoHostpath.InTime := by
    refine ⟨⟨by decide, ?_⟩, by decide⟩
    have hcount : (Osd.onHostpath twoHostpath.layout.devices).length = 2 := by decide
    rw [hcount]
    have hconfirming : twoHostpath.now + twoHostpath.context.confirming = 4000 := by decide
    have hsettling : twoHostpath.context.settling = 2000 := by decide
    intro k hk timeout hm
    have htimeout : Settings.seconds timeout = 600000 := by
      rcases List.mem_pair.1 hm with rfl | rfl <;> rfl
    rw [hconfirming, hsettling, htimeout, Clock.reaches_some, Clock.length]
    omega
  obtain ⟨hsome, _, hsecond, _⟩ := completes twoHostpath undisturbed_twoHostpath hclock
  exact ⟨hsome ⟨3, "10.0.0.1", by simp [twoHostpath]⟩, hsecond⟩

/-! ## The end of the clock -/

/-- A run that may wait for the cluster's health until after the end of the clock crashes before it
looks at it. -/
theorem Undisturbed.crashes (h : r.Undisturbed)
    (hclock : ¬ Clock.Reaches r.now (some (Settings.seconds r.settings.healthTimeout))) :
    r.first.1 = .crashed Pacer.beyondClock := by
  have hassembled := h.assembled
  let ready : Job Unit := do
    Job.report ("Adding blockdevice-based Rook OSDs and removing all Hostpath-based OSDs to allow "
      ++ "upgrading Rook")
    (Toolbox.ensureReady r.context).during
      "unable to start rook-ceph-tools before starting migration"
  have hready : Brings ready r.now r.layout.cluster () r.now r.layout.cluster :=
    (Brings.report _).bind ((brings_ensureReady hassembled.answering).during _)
  have hsame : r.layout.cluster = { r.layout.cluster with log := r.layout.cluster.log } := rfl
  obtain ⟨log, underWay, seen, hrun⟩ := run_undisturbed hsame hassembled.answering hready
  have hprepare : Migration.prepare r.context = ready >>= fun _ =>
      (awaitHealth r.context (some (Settings.seconds r.settings.healthTimeout))).during
        ("rook failed to become healthy within " ++ toString r.settings.healthTimeout
          ++ "s, aborting migration") := (bind_assoc _ _ _).symm
  let u : Timeline Rehearsal := ⟨r.now, .calm r.layout.cluster log underWay, seen⟩
  have hwait : (awaitHealth r.context
      (some (Settings.seconds r.settings.healthTimeout))).attempt.run Rehearsal.server none u =
        (.crashed Pacer.beyondClock, u) :=
    Job.run_bind_of_crashed (Job.run_start_beyond hclock)
  have hcrash : (Migration.prepare r.context).attempt.run Rehearsal.server none
      ⟨r.now, Faults.none.rehearsal r.layout.cluster, []⟩ = (.crashed Pacer.beyondClock, u) := by
    rw [hprepare, Job.run_bind_of_ok hrun]
    exact Job.run_during_crashed hwait
  rw [Resumption.first, h.faults, h.cancelAt]
  exact congrArg Prod.fst (Job.run_bind_of_crashed hcrash)

/-- The same cluster, with as many seconds to become healthy as the settings have room for. -/
def patientHostpath : Resumption :=
  { twoHostpath with settings := { Settings.standard with healthTimeout := 18446744073709551615 } }

theorem patientHostpath_crashes :
    patientHostpath.settings.check = .ok () ∧ patientHostpath.Undisturbed ∧
      ¬ (∃ removed, patientHostpath.Completed removed) := by
  have hundisturbed : patientHostpath.Undisturbed :=
    { undisturbed_twoHostpath with
      ample := ⟨by decide, by decide, by decide, by decide, by decide⟩ }
  refine ⟨rfl, hundisturbed, ?_⟩
  rintro ⟨removed, hcompleted⟩
  have hcrash := hundisturbed.crashes (by decide)
  rw [hcompleted.outcome] at hcrash
  cases hcrash

end Resumption

end OsdMigration
