import Mathlib.Data.List.Nodup
import Mathlib.Data.List.Sort
import OsdMigration.MiniCluster.Basic
import OsdMigration.Proofs.Removal.Obliging
import OsdMigration.Proofs.Survey

set_option autoImplicit false

/-! # How often an OSD is removed

The OSDs to remove are the entries of a listing of pods, one for every pod that mounts a host
directory, in the order of their numbers. Nothing makes the numbers different from one another: an
OSD whose pod is listed twice, one that ends next to the one that replaces it, is in the list twice.
Each of its four changes is then made up to that many times, and exactly that many times by a
migration that is completed, which also reports it that often (`ByListing`). Where no number is
listed twice, no change is made twice.
-/

namespace OsdMigration.Removal

open Job (Course)
open Migration (Outcome prepare survey conclude)

/-- How many of the pods are those of an OSD on a host directory. -/
def podsOnHostpath (s : Settings) (pods : List Cluster.Pod) (osd : UInt32) : Nat :=
  pods.countP fun p => Text.uint32? ((p.labels.get? s.osdLabel).getD "") == some osd &&
    Osd.mounts p s.hostpathMount

/-- An OSD is in the list as often as it has a pod. -/
theorem count_onHostpath {s : Settings} {pods : List Cluster.Pod} {devices : List Osd.Device}
    (h : Osd.ofPods s pods = .ok devices) (osd : UInt32) :
    (Osd.onHostpath devices).count osd = podsOnHostpath s pods osd := by
  have hnumbers : Osd.onHostpath devices = pods.filterMap fun p =>
      if Osd.mounts p s.hostpathMount then Text.uint32? ((p.labels.get? s.osdLabel).getD "")
      else none := by
    rw [Osd.onHostpath, ← List.filterMap_eq_map, List.filterMap_filter]
    refine Osd.filterMap_devices h fun p d hd => ?_
    obtain ⟨hosd, _, hb⟩ := Osd.ofPod_ok hd
    simp only [decide_eq_true_eq, hb, hosd, Function.comp_apply]
  rw [hnumbers, List.count_filterMap, podsOnHostpath]
  congr 1
  funext p
  cases Osd.mounts p s.hostpathMount <;> simp

theorem nodup_plan (s : Settings) (osd : UInt32) : (plan s osd).Nodup := by
  have hargv : (Ceph.Command.reweight osd).argv ≠ (Ceph.Command.purge osd).argv :=
    fun h => nomatch Ceph.Command.argv_injective h
  simp [plan, hargv]

/-- A change of an OSD is in the plans of a list as often as the OSD is in the list. -/
theorem count_flatMap_plan {s : Settings} {osd : UInt32} {change : OsdChange}
    (h : change ∈ plan s osd) (osds : List UInt32) :
    (osds.flatMap (plan s)).count change = osds.count osd := by
  induction osds with
  | nil => rfl
  | cons other osds ih =>
      rw [List.flatMap_cons, List.count_append, ih, List.count_cons, Nat.add_comm]
      congr 1
      by_cases ho : other = osd
      · subst ho
        simp [List.count_eq_one_of_mem (nodup_plan s other) h]
      · have hnot : change ∉ plan s other := fun h' => ho (eq_of_mem_plan h' h)
        simp [List.count_eq_zero_of_not_mem hnot, ho]

/-- How often a migration that goes by a listing changes an OSD, and reports it as removed. -/
structure Repeats (s : Settings) (pods : List Cluster.Pod) (seen : List Event)
    (o : Option (Attempt Outcome)) : Prop where
  /-- As often as its pod was listed at most. -/
  changed : ∀ osd, ∀ change ∈ plan s osd, (changes seen).count change ≤ podsOnHostpath s pods osd
  /-- Just as often if the migration is completed. -/
  completed : ∀ removed, o = some (.ok (.removed removed)) → ∀ osd,
    removed.count osd = podsOnHostpath s pods osd ∧
      ∀ change ∈ plan s osd, (changes seen).count change = podsOnHostpath s pods osd
  /-- Once at most if no pod was listed twice. -/
  once : (∀ osd, podsOnHostpath s pods osd ≤ 1) →
    ∀ osd, ∀ change ∈ plan s osd, (changes seen).count change ≤ 1
  /-- No OSD is reported twice just if no pod was listed twice. -/
  nodup_iff : ∀ removed, o = some (.ok (.removed removed)) →
    (removed.Nodup ↔ ∀ osd, podsOnHostpath s pods osd ≤ 1)

/-- What is seen of a migration and its result: nothing is changed, or everything goes by a listing
of the OSDs before which nothing was changed. -/
inductive ByListing (s : Settings) : List Event → Option (Attempt Outcome) → Prop
  | unchanged {seen : List Event} {o : Option (Attempt Outcome)} (nothing : changes seen = [])
      (failed : ∀ removed, o ≠ some (.ok (.removed removed))) : ByListing s seen o
  | listed {before removals : List Event} {u v : Nat} {pods : List Cluster.Pod}
      {osds : List UInt32} {o : Option (Attempt Outcome)} (nothing : changes before = [])
      (repeats : Repeats s pods removals o) :
      ByListing s (before ++ .answered u (.listPods s.space s.osdSelector) (.ok pods) ::
        .told v (.line (Migration.removing osds)) :: removals) o

theorem repeats_of_finish {c : Context} {pods : List Cluster.Pod} {osds : List UInt32}
    {seen : List Event} {o : Option (Attempt Outcome)}
    (hcount : ∀ osd, osds.count osd = podsOnHostpath c.settings pods osd)
    (h : Course (finish c osds) seen o) : Repeats c.settings pods seen o := by
  -- what was done is the beginning of the plan for the list, and all of it if the run is completed
  obtain ⟨hinitial, hall⟩ := follows_finish c osds seen o h
  have hchanged : ∀ osd, ∀ change ∈ plan c.settings osd,
      (changes seen).count change ≤ podsOnHostpath c.settings pods osd := by
    intro osd change hm
    rw [← hcount osd, ← count_flatMap_plan hm osds]
    exact hinitial.sublist.count_le change
  have hremoved : ∀ removed, o = some (.ok (.removed removed)) → removed = osds := by
    rintro removed rfl
    obtain ⟨_, _, _, _, _, h₁⟩ := (Job.course_bind_ok ..).1 h
    obtain ⟨_, _, _, _, _, _, ho⟩ := (Job.course_bind_ok ..).1 h₁
    cases ho
    rfl
  refine ⟨hchanged, fun removed ho osd => ?_, fun honce osd change hm => ?_, fun removed ho => ?_⟩
  · rw [hremoved removed ho]
    refine ⟨hcount osd, fun change hm => ?_⟩
    rw [hall _ ho, count_flatMap_plan hm, hcount]
  · exact Nat.le_trans (hchanged osd change hm) (honce osd)
  · rw [hremoved removed ho, List.nodup_iff_count_le_one]
    simp only [hcount]

/-- Every course of a migration goes by a listing, or changes nothing. -/
theorem byListing_of_course {c : Context} {seen : List Event} {o : Option (Attempt Outcome)}
    (h : Course (migrate c) seen o) : ByListing c.settings seen o := by
  have quiet : ∀ {part : List Event}, Asking (Prepares c.settings) part → changes part = [] :=
    fun h => changes_eq_nil h fun _ => prepares_no_change
  have hsurvey := (sends_survey c).mono fun _ => Surveys.prepares
  rw [migrate_parts] at h
  rcases (Job.course_bind ..).1 h with ⟨_, gate, rest, rfl, hp, h₁⟩ | ⟨f, hp, rfl⟩ | ⟨hp, rfl⟩
  · have hgate := quiet (sends_prepare c _ _ hp)
    rcases (Job.course_bind ..).1 h₁ with ⟨found, surveyed, rest, rfl, hs, h₂⟩ | ⟨f, hs, rfl⟩ |
      ⟨hs, rfl⟩
    · -- nothing is changed until the work list is made, and then only what is on it
      have hnothing := quiet (hsurvey _ _ hs)
      cases found with
      | none =>
          obtain ⟨rfl, rfl⟩ := h₂
          exact .unchanged (by simp [hgate, hnothing]) nofun
      | some osds =>
          obtain ⟨pods, before, u, v, devices, rfl, hd, rfl⟩ := course_survey_some hs
          have hbefore : changes (gate ++ before) = [] := by
            rw [changes_append] at hnothing
            rw [changes_append, hgate, (List.append_eq_nil_iff.1 hnothing).1]
            rfl
          have hcount : ∀ osd, (Osd.onHostpath devices).mergeSort.count osd =
              podsOnHostpath c.settings pods osd := fun osd => by
            rw [(List.mergeSort_perm ..).count_eq, count_onHostpath hd]
          have hlisted : ByListing c.settings (gate ++ before ++
              .answered u (.listPods c.settings.space c.settings.osdSelector) (.ok pods) ::
                .told v (.line (Migration.removing (Osd.onHostpath devices).mergeSort)) :: rest) o :=
            .listed hbefore (repeats_of_finish hcount h₂)
          simpa using hlisted
    · exact .unchanged (by simp [hgate, quiet (hsurvey _ _ hs)]) nofun
    · exact .unchanged (by simp [hgate, quiet (hsurvey _ _ hs)]) nofun
  · exact .unchanged (quiet (sends_prepare c _ _ hp)) nofun
  · exact .unchanged (quiet (sends_prepare c _ _ hp)) nofun

/-- A migration changes an OSD as often as its pod was listed at most, however the cluster behaves
and whenever the user cancels. -/
theorem changed_as_listed {σ : Type} (server : Server σ) (cancelAt : Option Nat) (c : Context)
    (now : Nat) (s : σ) :
    ByListing c.settings ((migrate c).attempt.watch server cancelAt now s).2
      ((migrate c).attempt.watch server cancelAt now s).1.result? :=
  byListing_of_course (Procedure.course_watch server cancelAt (migrate c).attempt now s)

/-- The pods of a cluster in which the pod of an OSD that ends is listed next to the one that
replaces it. -/
def replacedPods : List Cluster.Pod :=
  let pod := MiniCluster.osdPod 0 "10.0.0.1" true
  [pod, { pod with metadata := { pod.metadata with name := some "rook-ceph-osd-0-old" } },
    MiniCluster.osdPod 1 "10.0.0.2" false]

/-- A cluster with these pods that answers every request at once and lets everything go. -/
def replacing : Server Unit where
  receive _ _ s := (some 0, s)
  answer _ r s :=
    match r with
    | .getDeployment _ name =>
      (some (.ok (some (deploymentWith (if name = "rook-ceph-tools" then 1 else 0)))), s)
    | .listPods _ selector =>
      (some (.ok (if selector = Settings.standard.osdSelector then replacedPods
        else [MiniCluster.appPod "rook-ceph-tools" "" ""])), s)
    | .exec _ _ _ argv =>
      (some (.ok (.success (if argv = Ceph.Command.status.argv then
        "\x7b\"health\":\x7b\"status\":\"HEALTH_OK\"\x7d,\"osdmap\":"
          ++ "\x7b\"osdmap\":\x7b\"num_osds\":4,\"num_up_osds\":3\x7d\x7d\x7d"
        else assurance))), s)
    | .listNodes => (some (.ok [{}]), s)
    | .patchDeployment .. | .createDeployment .. | .deleteDeployment .. | .deletePods ..
    | .patchCluster .. => (some (.ok ()), s)

/-- The OSD is removed twice, and reported twice. -/
theorem removed_twice :
    let run := (migrate ⟨{ Settings.standard with
      healthConfirmations := 1, safeConfirmations := 1, maxBlockHosts := 1 }, 1⟩).attempt.watch
        replacing none 0 ()
    run.1.result? = some (.ok (.removed [0, 0])) ∧
      changes run.2 = plan Settings.standard 0 ++ plan Settings.standard 0 := by
  -- sorting by insertion can be evaluated
  simp only [migrate_parts, survey, Migration.reshape, Migration.enumerate,
    List.mergeSort_eq_insertionSort (fun a b : UInt32 => a ≤ b)]
  decide +kernel

end OsdMigration.Removal
