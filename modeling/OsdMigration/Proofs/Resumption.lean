import OsdMigration.Proofs.Resumption.Faults
import OsdMigration.Proofs.Resumption.Layout
import OsdMigration.Proofs.Resumption.Success

set_option autoImplicit false

/-! # A migration that is run again

A migration that ended early is run again on the cluster it left. The second run goes by the pods
that it finds. So it removes an OSD just if the first run has not scaled its deployment down: of an
OSD that lost its pod, whatever else the first run has not taken away stays
(`left_behind_iff`), although the second run succeeds.
-/

namespace OsdMigration

open Ceph (Command)
open Cluster (Pod Request)
open Job (Sends)
open MiniCluster (Standing mine osdDeployment)
open Removal (OsdChange Step)

/-! ## Two runs -/

/-- A migration of a cluster that was built, under some faults, and once more without. -/
structure Resumption where
  /-- The settings, except for the names. -/
  settings : Settings
  polls : Nat
  layout : Layout
  faults : Faults
  cancelAt : Option Nat
  now : Nat
  cancelAgainAt : Option Nat
  later : Nat

namespace Resumption

variable (r : Resumption)

def context : Context := ⟨r.settings.stockNamed, r.polls⟩

/-- The first run. -/
def first : Ending (Attempt Migration.Outcome) × Timeline Rehearsal :=
  (migrate r.context).attempt.run Rehearsal.server r.cancelAt
    ⟨r.now, r.faults.rehearsal r.layout.cluster, []⟩

/-- The second run, on the cluster that the first one left. -/
def second : Ending (Attempt Migration.Outcome) × Timeline Rehearsal :=
  (migrate r.context).attempt.run Rehearsal.server r.cancelAgainAt
    ⟨r.later, Faults.none.rehearsal r.first.2.server.cluster, []⟩

end Resumption

/-! ## What is known of each run -/

/-- A migration sends nothing but its requests. -/
theorem sends_migrate (c : Context) : Sends (Sendable c.settings) (migrate c) := by
  have hA := cumulative_asking (Sendable c.settings)
  refine hA.migrate c (fun seen h => h.mono fun _ => Prepares.sendable) fun osd => ?_
  refine hA.bind (hA.forM _ fun step _ => ?_) fun _ => hA.report _
  exact (Removal.sends_perform c osd step).mono fun _ => Removal.Step.Sent.sendable

variable {osd : UInt32} {seen : List Event}

/-- What is known of an OSD at the end of a run. -/
theorem tracked_run (s : Settings) (polls : Nat) (cancelAt : Option Nat) (f : Faults)
    {m : MiniCluster} {earlier : List Event} (now : Nat)
    (h : StandsAfter s.stockNamed osd earlier m) :
    Tracked s.stockNamed osd earlier
      ((migrate ⟨s.stockNamed, polls⟩).attempt.run Rehearsal.server cancelAt
        ⟨now, f.rehearsal m, []⟩).2.server
      ((migrate ⟨s.stockNamed, polls⟩).attempt.run Rehearsal.server cancelAt
        ⟨now, f.rehearsal m, []⟩).2.seen := by
  refine (keeps_tracked s osd earlier).run cancelAt _ ⟨Rehearsal.honest_rehearsal f m, ?_, ?_⟩
  · exact fun _ => Standing.of_eq h rfl rfl rfl rfl
  · intro _ newer u space pods older hsplit
    exact absurd hsplit (by simp)

theorem asking_run (c : Context) (cancelAt : Option Nat) (h : Rehearsal) (now : Nat) :
    Asking (Sendable c.settings)
      ((migrate c).attempt.run Rehearsal.server cancelAt ⟨now, h, []⟩).2.seen :=
  (sends_migrate c).run (cumulative_asking _).nil

/-! ## Requests that change an OSD -/

/-- Requests that leave an OSD alone. -/
def Leaves (s : Settings) (osd : UInt32) (r : Request) : Prop :=
  ∀ change ∈ OsdChange.ofRequest? r, change ∉ Removal.plan s osd

theorem Prepares.leaves {s : Settings} {r : Request} (h : Prepares s r) : Leaves s osd r := by
  intro change hc
  rw [Removal.prepares_no_change h] at hc
  cases hc

theorem Removal.Step.Sent.leaves {s : Settings} {other : UInt32} {step : Step} {r : Request}
    (h : step.Sent s other r) (hne : other ≠ osd) : Leaves s osd r :=
  fun _ hc hm => hne (Removal.eq_of_mem_plan (Removal.change_of_sent h hc) hm)

/-- What takes something from an OSD is a change of its plan. -/
theorem change_of_event {s : Settings} {e : Event}
    (h : e.ScaledDown s osd ∨ e.Purged osd ∨ e.Deleted s osd) :
    ∃ r ∈ e.request?, ∃ change ∈ OsdChange.ofRequest? r, change ∈ Removal.plan s osd := by
  rcases h with h | h | h
  · unfold Event.ScaledDown at h
    split at h
    · refine ⟨_, rfl, _, h ▸ Removal.scaleDown_change s osd, ?_⟩
      simp [Removal.plan]
    · exact h.elim
  · unfold Event.Purged at h
    split at h
    · rename_i u space pod container argv output
      obtain ⟨rfl, _⟩ := h
      refine ⟨_, rfl, _, (rfl : OsdChange.ofRequest?
        (.exec space pod container (Command.purge osd).argv) = _), ?_⟩
      simp [Removal.plan]
    · exact h.elim
  · unfold Event.Deleted at h
    split at h
    · obtain ⟨rfl, rfl⟩ := h
      refine ⟨_, rfl, _, (rfl : OsdChange.ofRequest?
        (.deleteDeployment s.space (s.osdDeployment osd)) = _), ?_⟩
      simp [Removal.plan]
    · exact h.elim

/-- Nothing is taken from an OSD that is left alone. -/
theorem not_changed {s : Settings} (h : Asking (Leaves s osd) seen) :
    (¬ ∃ e ∈ seen, e.ScaledDown s osd) ∧ (¬ ∃ e ∈ seen, e.Purged osd) ∧
      ¬ ∃ e ∈ seen, e.Deleted s osd := by
  have none : ∀ e ∈ seen, ¬ (e.ScaledDown s osd ∨ e.Purged osd ∨ e.Deleted s osd) := by
    intro e he hc
    obtain ⟨r, hr, change, hc, hm⟩ := change_of_event hc
    exact h e he r hr change hc hm
  refine ⟨?_, ?_, ?_⟩
  · rintro ⟨e, he, hs⟩
    exact none e he (.inl hs)
  · rintro ⟨e, he, hp⟩
    exact none e he (.inr (.inl hp))
  · rintro ⟨e, he, hd⟩
    exact none e he (.inr (.inr hd))

/-! ## The second run -/

/-- A listing contains an OSD on a host directory just if its deployment was not scaled down. -/
theorem listed_iff {s : Settings} {past : List Event} {pods : List Pod} {devices : List Osd.Device}
    (h : Shows s.stockNamed osd past pods) (hl : Osd.ofPods s.stockNamed pods = .ok devices) :
    (∃ d ∈ devices, d.osd = osd ∧ d.backing = .hostpath) ↔
      ¬ ∃ e ∈ past, e.ScaledDown s.stockNamed osd := by
  rw [Osd.exists_hostpath_iff hl, ← h.running]
  constructor
  · rintro ⟨p, hp, hn, _⟩ hnil
    have hm : p ∈ mine osd pods := MiniCluster.mem_mine.2 ⟨hp, hn⟩
    rw [hnil] at hm
    cases hm
  · intro hne
    obtain ⟨p, hm⟩ := List.exists_mem_of_ne_nil _ hne
    obtain ⟨hp, hn⟩ := MiniCluster.mem_mine.1 hm
    exact ⟨p, hp, hn, (h.backed p hm).2⟩

/-- A run that succeeds removes an OSD just if its deployment was not scaled down before. -/
theorem gone_unless_scaledDown {s : Settings} {course earlier : List Event}
    {h : Rehearsal} (hs : Succeeded s.stockNamed course)
    (ht : Tracked s.stockNamed osd earlier h course.reverse)
    (hask : Asking (Sendable s.stockNamed) course.reverse) :
    ((∃ e ∈ earlier, e.ScaledDown s.stockNamed osd) →
      (¬ ∃ e ∈ course, e.Purged osd) ∧ ¬ ∃ e ∈ course, e.Deleted s.stockNamed osd) ∧
    ((¬ ∃ e ∈ earlier, e.ScaledDown s.stockNamed osd) → Gone s.stockNamed osd course) := by
  obtain @⟨before, after, u, pods, devices, hprepare, hl, hdone⟩ := hs
  have hbefore : Asking (Leaves s.stockNamed osd) before :=
    hprepare.mono fun _ => Prepares.leaves
  have hshows : Shows s.stockNamed osd (before.reverse ++ earlier) pods :=
    ht.listed hask after.reverse u s.stockNamed.space pods before.reverse (by simp)
  have hpast : (∃ e ∈ before.reverse ++ earlier, e.ScaledDown s.stockNamed osd) ↔
      ∃ e ∈ earlier, e.ScaledDown s.stockNamed osd := by
    constructor
    · rintro ⟨e, he, hsd⟩
      rcases List.mem_append.1 he with he | he
      · exact absurd ⟨e, List.mem_reverse.1 he, hsd⟩ (not_changed hbefore).1
      · exact ⟨e, he, hsd⟩
    · rintro ⟨e, he, hsd⟩
      exact ⟨e, List.mem_append_right _ he, hsd⟩
  have hfound := listed_iff hshows hl
  rw [hpast] at hfound
  constructor
  · -- its pod is not listed, so nothing that follows concerns it
    intro hsd
    have hnone : osd ∉ Osd.onHostpath devices := fun hm =>
      hfound.1 (Osd.mem_onHostpath.1 hm) hsd
    have hafter : Asking (Leaves s.stockNamed osd) after := by
      rcases hdone with ⟨hp, _⟩ | ⟨_, hsent⟩
      · exact hp.mono fun _ => Prepares.leaves
      · refine hsent.mono ?_
        rintro r ⟨other, hother, step, hstep⟩
        exact hstep.leaves fun he => hnone (he ▸ hother)
    refine (not_changed (asking_append.2 ⟨hbefore, ?_⟩)).2
    refine asking_cons.2 ⟨?_, hafter⟩
    rintro r hr
    cases hr
    exact Prepares.leaves .osdPods
  · -- its pod is listed, so it is among those to remove
    intro hsd
    obtain ⟨d, hd, hosd, hb⟩ := hfound.2 hsd
    rcases hdone with ⟨_, hzero⟩ | ⟨hgone, _⟩
    · exact absurd hb (Osd.no_hostpath_of_count hzero hd)
    · have := (hgone osd (Osd.mem_onHostpath.2 ⟨d, hd, hosd, hb⟩)).append_left
        (before ++ [.answered u (.listPods s.stockNamed.space s.stockNamed.osdSelector) (.ok pods)])
      simpa using this

/-! ## What is left -/

/-- What was seen in either of two runs. -/
theorem exists_append_iff {p : Event → Prop} {course earlier : List Event} :
    (∃ e ∈ course.reverse ++ earlier, p e) ↔ (∃ e ∈ course, p e) ∨ ∃ e ∈ earlier, p e := by
  simp only [List.mem_append, List.mem_reverse, or_and_right, exists_or]

/-- If the second run succeeds, Ceph still knows an OSD that was on a host directory just if the
first run scaled its deployment down and Ceph did not forget it, and its deployment is still there
just if the first run scaled it down and did not delete it. -/
theorem left_behind_iff (r : Resumption) {outcome : Migration.Outcome}
    (hok : r.second.1 = .done (.ok outcome)) {osd : UInt32} {host : String}
    (hosd : .osd osd host true ∈ r.layout.pieces) :
    (osd ∈ r.second.2.server.cluster.osds ↔
      (∃ e ∈ r.first.2.seen, e.ScaledDown r.context.settings osd) ∧
        ¬ ∃ e ∈ r.first.2.seen, e.Purged osd) ∧
    (r.second.2.server.cluster.deployments.contains (osdDeployment osd) = true ↔
      (∃ e ∈ r.first.2.seen, e.ScaledDown r.context.settings osd) ∧
        ¬ ∃ e ∈ r.first.2.seen, e.Deleted r.context.settings osd) := by
  have hstart : StandsAfter r.settings.stockNamed osd [] r.layout.cluster := by
    have hstands := standing_layout r.layout hosd
    simpa [StandsAfter] using hstands
  have hfirst : StandsAfter r.settings.stockNamed osd r.first.2.seen
      r.first.2.server.cluster := by
    have htracked := tracked_run r.settings r.polls r.cancelAt r.faults r.now hstart
    have hstands := htracked.stands (asking_run r.context r.cancelAt _ r.now)
    rw [List.append_nil] at hstands
    exact hstands
  obtain ⟨course, hseen, hcourse⟩ := Job.course_run_ok
    (show r.second = (.done (.ok outcome), r.second.2) from Prod.ext hok rfl)
  have hseen : r.second.2.seen = course.reverse := hseen.trans (List.append_nil _)
  have htracked : Tracked r.settings.stockNamed osd r.first.2.seen r.second.2.server
      course.reverse :=
    hseen ▸ tracked_run r.settings r.polls r.cancelAgainAt .none r.later hfirst
  have hask : Asking (Sendable r.settings.stockNamed) course.reverse :=
    hseen ▸ asking_run r.context r.cancelAgainAt _ r.later
  obtain ⟨hkept, hgone⟩ := gone_unless_scaledDown (course_migrate_ok hcourse) htracked hask
  obtain ⟨hdeployed, _, _, hknown, _⟩ := htracked.stands hask
  rw [hknown, hdeployed.there, exists_append_iff, exists_append_iff]
  -- scaled down before, the second run leaves it as it was; otherwise it takes all of it away
  by_cases hsd : ∃ e ∈ r.first.2.seen, e.ScaledDown r.settings.stockNamed osd
  · obtain ⟨hpurged, hdeleted⟩ := hkept hsd
    simp only [hpurged, hdeleted, false_or]
    exact ⟨⟨fun h => ⟨hsd, h⟩, And.right⟩, ⟨fun h => ⟨hsd, h⟩, And.right⟩⟩
  · obtain ⟨hpurged, hdeleted⟩ := hgone hsd
    exact ⟨⟨fun h => absurd (.inl hpurged) h, fun h => absurd h.1 hsd⟩,
      ⟨fun h => absurd (.inl hdeleted) h, fun h => absurd h.1 hsd⟩⟩

/-! ## An OSD that is left behind -/

/-- A failure to purge. -/
def purgeFault : Faults where
  script := .empty
  honest := Script.honest_empty
  replies := NameMap.empty.insert "ceph osd purge 0 --yes-i-really-mean-it"
    [.error (.internal "the purge is lost")]
  failing := by
    intro line outcomes h output hm
    rw [NameMap.get?_insert] at h
    split at h
    · cases h
      cases List.mem_singleton.1 hm
    · cases h
  listings := []
  hang := false

/-- The only OSD on a host directory cannot be purged. -/
def stranded : Resumption where
  settings := { Settings.standard with
    healthConfirmations := 1, safeConfirmations := 1, maxBlockHosts := 1 }
  polls := 100
  layout := {
    pieces := [.nodes ["node-1"], .toolbox, .operator "rook/ceph:v1.0.4", .osd 0 "10.0.0.1" true,
      .osd 1 "10.0.0.2" false, .report (.obj [("health", .obj [("status", .str "HEALTH_OK")])])]
    distinct := by decide }
  faults := purgeFault
  cancelAt := none
  now := 0
  cancelAgainAt := none
  later := 0

/-- The first run fails; the second succeeds and leaves the OSD of the first. -/
theorem stranded_runs :
    (∃ failure, stranded.first.1 = .done (.error failure)) ∧
      stranded.second.1 = .done (.ok .notRequired) ∧
      0 ∈ stranded.second.2.server.cluster.osds ∧
      stranded.second.2.server.cluster.deployments.contains (osdDeployment 0) = true := by
  have hruns : (stranded.first.1.result?.map Except.toOption,
      stranded.second.1.result?.map Except.toOption,
      stranded.second.2.server.cluster.osds.members,
      stranded.second.2.server.cluster.deployments.contains (osdDeployment 0)) =
      (some none, some (some .notRequired), [0, 1], true) := by
    decide +kernel
  simp only [Prod.mk.injEq] at hruns
  obtain ⟨hfirst, hsecond, hosds, hdeployed⟩ := hruns
  have hknown : 0 ∈ stranded.second.2.server.cluster.osds.members := by
    rw [hosds]
    exact List.mem_cons_self
  refine ⟨?_, ?_, hknown, hdeployed⟩
  · generalize stranded.first.1 = ending at hfirst
    match ending, hfirst with
    | .done (.error failure), _ => exact ⟨failure, rfl⟩
  · generalize stranded.second.1 = ending at hsecond
    match ending, hsecond with
    | .done (.ok .notRequired), _ => rfl

/-- The first run scaled the deployment down and took nothing else away. -/
theorem left_behind_stranded :
    (∃ e ∈ stranded.first.2.seen, e.ScaledDown stranded.context.settings 0) ∧
      (¬ ∃ e ∈ stranded.first.2.seen, e.Purged 0) ∧
      ¬ ∃ e ∈ stranded.first.2.seen, e.Deleted stranded.context.settings 0 := by
  obtain ⟨_, hok, hknown, hdeployed⟩ := stranded_runs
  obtain ⟨hosds, hdeployments⟩ :=
    @left_behind_iff stranded _ hok 0 "10.0.0.1" (by simp [stranded])
  exact ⟨(hosds.1 hknown).1, (hosds.1 hknown).2, (hdeployments.1 hdeployed).2⟩

/-- A failed migration that is run again may succeed without removing an OSD on a host
directory. -/
theorem second_run_strands :
    ∃ (r : Resumption) (failure : Failure) (outcome : Migration.Outcome) (osd : UInt32)
      (host : String), r.first.1 = .done (.error failure) ∧ r.second.1 = .done (.ok outcome) ∧
      .osd osd host true ∈ r.layout.pieces ∧ osd ∈ r.second.2.server.cluster.osds ∧
      r.second.2.server.cluster.deployments.contains (osdDeployment osd) = true := by
  obtain ⟨⟨failure, hfirst⟩, hok, hknown, hdeployed⟩ := stranded_runs
  exact ⟨stranded, failure, .notRequired, 0, "10.0.0.1", hfirst, hok, by simp [stranded],
    hknown, hdeployed⟩

end OsdMigration
