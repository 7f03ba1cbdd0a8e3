import OsdMigration.Osd.Inventory
import OsdMigration.Proofs.Course.Job

set_option autoImplicit false

/-! # Listings of OSDs

What is seen of a listing of the running OSDs, and which OSDs a listing of pods contains.
-/

namespace OsdMigration.Osd

open Cluster (Pod)
open Job (Course)

theorem course_inventory_ok {s : Settings} {seen : List Event} {devices : List Device}
    (h : Course (inventory s) seen (some (.ok devices))) :
    ∃ t u pods, seen = [.called t (.listPods s.space s.osdSelector),
        .answered u (.listPods s.space s.osdSelector) (.ok pods)] ∧
      ofPods s pods = .ok devices := by
  obtain ⟨pods, listing, _, rfl, hl, rfl, hd⟩ := (Job.course_bind_ok ..).1 h
  obtain ⟨t, u, rfl⟩ := (Job.course_ask_ok ..).1 ((Job.course_during_ok ..).1 hl)
  exact ⟨t, u, pods, List.append_nil _, (Option.some.inj hd).symm⟩

theorem course_hostpathOsds_ok {s : Settings} {seen : List Event} {found : List UInt32}
    (h : Course (hostpathOsds s) seen (some (.ok found))) :
    ∃ t u pods devices, seen = [.called t (.listPods s.space s.osdSelector),
        .answered u (.listPods s.space s.osdSelector) (.ok pods)] ∧
      ofPods s pods = .ok devices ∧ found = onHostpath devices := by
  obtain ⟨devices, first, _, rfl, hi, rfl, hf⟩ := (Job.course_bind_ok ..).1 h
  obtain ⟨t, u, pods, rfl, hd⟩ := course_inventory_ok hi
  exact ⟨t, u, pods, devices, List.append_nil _, hd, Except.ok.inj (Option.some.inj hf)⟩

theorem course_countHostsNow_ok {s : Settings} {seen : List Event} {counts : HostCounts}
    (h : Course (countHostsNow s) seen (some (.ok counts))) :
    ∃ t u pods devices, seen = [.called t (.listPods s.space s.osdSelector),
        .answered u (.listPods s.space s.osdSelector) (.ok pods)] ∧
      ofPods s pods = .ok devices ∧ counts = countHosts devices := by
  obtain ⟨devices, first, _, rfl, hi, rfl, hf⟩ := (Job.course_bind_ok ..).1 h
  obtain ⟨t, u, pods, rfl, hd⟩ := course_inventory_ok hi
  exact ⟨t, u, pods, devices, List.append_nil _, hd, Except.ok.inj (Option.some.inj hf)⟩

/-! ## OSDs and their pods -/

variable {s : Settings} {pods : List Pod} {devices : List Device}

/-- The first pod of a listing gives its first OSD. -/
theorem ofPods_cons {p : Pod} (h : ofPods s (p :: pods) = .ok devices) :
    ∃ first others, Device.ofPod s.osdLabel s.hostpathMount p = .ok first ∧
      ofPods s pods = .ok others ∧ devices = first :: others := by
  unfold ofPods at h
  rw [List.mapM_cons] at h
  cases hp : Device.ofPod s.osdLabel s.hostpathMount p with
  | error e =>
      rw [hp] at h
      cases h
  | ok first =>
      rw [hp] at h
      cases hps : List.mapM (Device.ofPod s.osdLabel s.hostpathMount) pods with
      | error e =>
          rw [hps] at h
          cases h
      | ok others =>
          rw [hps] at h
          cases h
          exact ⟨first, others, rfl, hps, rfl⟩

/-- The OSDs of a listing are those of its pods. -/
theorem mem_devices_iff (h : ofPods s pods = .ok devices) (d : Device) :
    d ∈ devices ↔ ∃ p ∈ pods, Device.ofPod s.osdLabel s.hostpathMount p = .ok d := by
  induction pods generalizing devices with
  | nil =>
      cases h
      simp
  | cons p pods ih =>
      obtain ⟨first, others, hp, hps, rfl⟩ := ofPods_cons h
      simp only [List.mem_cons, exists_eq_or_imp, hp, Except.ok.injEq]
      exact or_congr eq_comm (ih hps)

/-- What the OSDs of a listing give in their order is what its pods give, if each OSD gives what its
pod gives. -/
theorem filterMap_devices {β : Type} {f : Device → Option β} {g : Pod → Option β}
    (h : ofPods s pods = .ok devices)
    (hfg : ∀ p d, Device.ofPod s.osdLabel s.hostpathMount p = .ok d → f d = g p) :
    devices.filterMap f = pods.filterMap g := by
  induction pods generalizing devices with
  | nil =>
      cases h
      rfl
  | cons p pods ih =>
      obtain ⟨first, others, hp, hps, rfl⟩ := ofPods_cons h
      simp only [List.filterMap_cons, hfg p first hp, ih hps]

/-- The OSD of a pod: the number in its label, its host, and its backing by what it mounts. -/
theorem ofPod_ok {label hostpathMount : String} {p : Pod} {d : Device}
    (h : Device.ofPod label hostpathMount p = .ok d) :
    Text.uint32? ((p.labels.get? label).getD "") = some d.osd ∧ d.host = hostOf p ∧
      (d.backing = .hostpath ↔ mounts p hostpathMount = true) := by
  simp only [Device.ofPod] at h
  split at h
  · rename_i osd hosd
    cases h
    refine ⟨hosd, rfl, ?_⟩
    cases mounts p hostpathMount <;> simp
  · cases h

/-- A pod is that of an OSD if the number stands in its label, and the OSD is on a host directory if
the pod mounts one. -/
theorem exists_hostpath_iff (h : ofPods s pods = .ok devices) (osd : UInt32) :
    (∃ d ∈ devices, d.osd = osd ∧ d.backing = .hostpath) ↔
      ∃ p ∈ pods, Text.uint32? ((p.labels.get? s.osdLabel).getD "") = some osd ∧
        mounts p s.hostpathMount = true := by
  constructor
  · rintro ⟨d, hd, rfl, hb⟩
    obtain ⟨p, hp, hof⟩ := (mem_devices_iff h d).1 hd
    obtain ⟨hosd, _, hbacking⟩ := ofPod_ok hof
    exact ⟨p, hp, hosd, hbacking.1 hb⟩
  · rintro ⟨p, hp, hosd, hm⟩
    refine ⟨⟨osd, hostOf p, .hostpath⟩, (mem_devices_iff h _).2 ⟨p, hp, ?_⟩, rfl, rfl⟩
    simp only [Device.ofPod, hosd, hm, if_true]

theorem mem_onHostpath {osd : UInt32} :
    osd ∈ onHostpath devices ↔ ∃ d ∈ devices, d.osd = osd ∧ d.backing = .hostpath := by
  simp only [onHostpath, List.mem_map, List.mem_filter, decide_eq_true_eq]
  constructor
  · rintro ⟨d, ⟨hd, hb⟩, rfl⟩
    exact ⟨d, hd, rfl, hb⟩
  · rintro ⟨d, hd, rfl, hb⟩
    exact ⟨d, ⟨hd, hb⟩, rfl⟩

/-- If no host has an OSD on a directory, no OSD is on a directory. -/
theorem no_hostpath_of_count (h : (countHosts devices).hostpath = 0) {d : Device}
    (hd : d ∈ devices) : d.backing ≠ .hostpath := by
  intro hb
  have hnil : (devices.filter fun d => d.backing = .hostpath).map Device.host = [] := by
    have hdup := List.eq_nil_of_length_eq_zero h
    unfold hosts at hdup
    cases hm : (devices.filter fun d => d.backing = .hostpath).map Device.host with
    | nil => rfl
    | cons host rest =>
        rw [hm, List.eraseDups_cons] at hdup
        cases hdup
  have hmem : d.host ∈ (devices.filter fun d => d.backing = .hostpath).map Device.host :=
    List.mem_map.2 ⟨d, List.mem_filter.2 ⟨hd, decide_eq_true hb⟩, rfl⟩
  rw [hnil] at hmem
  cases hmem

end OsdMigration.Osd
