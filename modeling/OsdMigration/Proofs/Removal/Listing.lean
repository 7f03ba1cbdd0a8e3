import OsdMigration.Proofs.Survey

set_option autoImplicit false

/-! # The listing that a migration goes by

The OSDs to remove are listed once, right after the wait for block devices, and removed in the order
of their numbers. Before they are listed no OSD is so much as named, and from there on everything
goes in order (`one_removal_at_a_time`).
-/

namespace OsdMigration

open Job (ComesTo Sends)
open Migration (Outcome prepare survey)

/-- What a migration does until it knows which OSDs to remove, unless none has to be. -/
def Migration.find (c : Context) : Job (Option (List UInt32)) := prepare c >>= fun _ => survey c

theorem migrate_find (c : Context) : migrate c = Migration.find c >>= Migration.conclude c := by
  rw [migrate_parts, Migration.find, bind_assoc]

theorem sends_find (c : Context) : Sends (Prepares c.settings) (Migration.find c) :=
  (cumulative_asking (Prepares c.settings)).bind (sends_prepare c) fun _ =>
    (sends_survey c).mono fun _ => Surveys.prepares

namespace Removal

section

variable {σ : Type} (server : Server σ) (cancelAt : Option Nat) (c : Context) (start : Timeline σ)

/-- The OSDs whose removals begin at an instant of the run of a migration: those on host
directories, sorted, in the listing that was made right after the wait for block devices of that run
ended well. -/
structure Listed (osds : List UInt32) (t : Timeline σ) : Prop where
  sorted : osds.Pairwise (· ≤ ·)
  /-- The run has found them by then, -/
  found : (Migration.find c).attempt.run server cancelAt start = (.done (.ok (some osds)), t)
  /-- and only the removals are left. -/
  comes : ComesTo server cancelAt (migrate c) start (finish c osds) t
  /-- What was seen until then is the beginning of what is seen in the end. -/
  within : ∃ more, ((migrate c).attempt.run server cancelAt start).2.seen = more ++ t.seen
  listing : ∃ (w b : Timeline σ) (rest : Unit → Job Outcome) (pods : List Cluster.Pod)
      (devices : List Osd.Device) (t₁ t₂ t₃ t₄ : Nat),
    ComesTo server cancelAt (migrate c) start
      ((awaitBlockHosts c).during "failed to wait for block device OSDs to be added" >>= rest) w ∧
    (awaitBlockHosts c).attempt.run server cancelAt w = (.done (.ok ()), b) ∧
    t.seen = .told t₄ (.line (Migration.removing osds)) ::
      .answered t₃ (.listPods c.settings.space c.settings.osdSelector) (.ok pods) ::
      .called t₂ (.listPods c.settings.space c.settings.osdSelector) ::
      .told t₁ (.line "Determining the list of hostpath OSDs to migrate") :: b.seen ∧
    Osd.ofPods c.settings pods = .ok devices ∧ osds.Perm (Osd.onHostpath devices)

/-- What holds of the run of a migration: where OSDs are listed, everything goes in order from
there; where none are, nothing is removed, and no OSD is named. -/
structure OneAtATime : Prop where
  listed : ∀ osds t, Listed server cancelAt c start osds t →
    Orderly server cancelAt c osds t ((migrate c).attempt.run server cancelAt start)
  unlisted : (∀ osds t, ¬ Listed server cancelAt c start osds t) →
    Asking (Prepares c.settings) ((migrate c).attempt.run server cancelAt start).2.seen ∧
      changes ((migrate c).attempt.run server cancelAt start).2.seen.reverse = [] ∧
      ∀ removed, ((migrate c).attempt.run server cancelAt start).1 ≠
        .done (.ok (.removed removed))

end

variable {σ : Type} {server : Server σ} {cancelAt : Option Nat} {c : Context} {start : Timeline σ}

theorem pairwise_mergeSort_le (osds : List UInt32) : osds.mergeSort.Pairwise (· ≤ ·) := by
  refine (List.pairwise_mergeSort ?_ ?_ osds).imp of_decide_eq_true
  · intro a b c hab hbc
    exact decide_eq_true (UInt32.le_trans (of_decide_eq_true hab) (of_decide_eq_true hbc))
  · intro a b
    simpa using UInt32.le_total a b

/-- A run that finds OSDs to remove waits for block devices first, and lists the OSDs right after
that. -/
theorem awaited_of_found {osds : List UInt32} {t : Timeline σ}
    (h : (Migration.find c).attempt.run server cancelAt start = (.done (.ok (some osds)), t)) :
    ∃ w b, ComesTo server cancelAt (Migration.find c) start
        ((awaitBlockHosts c).during "failed to wait for block device OSDs to be added" >>=
          fun _ => Migration.enumerate c) w ∧
      (awaitBlockHosts c).attempt.run server cancelAt w = (.done (.ok ()), b) ∧
      (Migration.enumerate c).attempt.run server cancelAt b = (.done (.ok (some osds)), t) := by
  have hstart : ComesTo server cancelAt (Migration.find c) start
      (prepare c >>= fun _ => survey c) start := .start
  -- the run goes past each part before the wait
  obtain ⟨_, _, _, hsurvey⟩ := hstart.passes h
  obtain ⟨_, _, _, hcount⟩ := hsurvey.passes h
  obtain ⟨counts, _, _, hcounted⟩ := hcount.passes h
  split at hcounted
  · -- it would have found nothing
    obtain ⟨_, _, _, hnone⟩ := hcounted.passes h
    rw [hnone.run_eq] at h
    cases h
  · obtain ⟨_, _, _, hreshape⟩ := hcounted.passes h
    simp only [Migration.provision, bind_assoc] at hreshape
    obtain ⟨_, _, _, henable⟩ := hreshape.passes h
    obtain ⟨_, _, _, hnudge⟩ := henable.passes h
    obtain ⟨_, _, _, hreport⟩ := hnudge.passes h
    obtain ⟨_, w, _, hwait⟩ := hreport.passes h
    obtain ⟨_, b, hended, hlist⟩ := hwait.passes h
    exact ⟨w, b, hwait, Job.run_during_ok.1 hended, hlist.run_eq ▸ h⟩

/-- What is seen when OSDs are listed to be removed: the listing, between two announcements. -/
theorem run_enumerate_some {osds : List UInt32} {b t : Timeline σ}
    (h : (Migration.enumerate c).attempt.run server cancelAt b = (.done (.ok (some osds)), t)) :
    ∃ (pods : List Cluster.Pod) (devices : List Osd.Device) (t₁ t₂ t₃ t₄ : Nat),
      t.seen = .told t₄ (.line (Migration.removing osds)) ::
        .answered t₃ (.listPods c.settings.space c.settings.osdSelector) (.ok pods) ::
        .called t₂ (.listPods c.settings.space c.settings.osdSelector) ::
        .told t₁ (.line "Determining the list of hostpath OSDs to migrate") :: b.seen ∧
      Osd.ofPods c.settings pods = .ok devices ∧ osds = (Osd.onHostpath devices).mergeSort := by
  obtain ⟨_, v, hsaid, h⟩ := Job.run_bind_ok h
  obtain ⟨found, u, hlist, h⟩ := Job.run_bind_ok h
  obtain ⟨_, _, hsaid', h⟩ := Job.run_bind_ok h
  obtain ⟨seen, hseen, hcourse⟩ := Job.course_run_ok (Job.run_during_ok.1 hlist)
  obtain ⟨t₂, t₃, pods, devices, rfl, hd, rfl⟩ := Osd.course_hostpathOsds_ok hcourse
  cases hsaid
  cases hsaid'
  cases h
  exact ⟨pods, devices, b.time, t₂, t₃, u.time, congrArg (_ :: ·) hseen, hd, rfl⟩

/-- The OSDs that are found are those of the listing. -/
theorem listed_of_found {osds : List UInt32} {t : Timeline σ}
    (h : (Migration.find c).attempt.run server cancelAt start = (.done (.ok (some osds)), t)) :
    Listed server cancelAt c start osds t := by
  obtain ⟨w, b, hwait, hended, hlist⟩ := awaited_of_found h
  obtain ⟨pods, devices, t₁, t₂, t₃, t₄, hseen, hd, rfl⟩ := run_enumerate_some hlist
  have hfind : ComesTo server cancelAt (migrate c) start
      (Migration.find c >>= Migration.conclude c) start := migrate_find c ▸ .start
  have hcomes : ComesTo server cancelAt (migrate c) start
      (finish c (Osd.onHostpath devices).mergeSort) t := hfind.past h
  have hwait' := hwait.bind (Migration.conclude c)
  rw [bind_assoc, ← migrate_find] at hwait'
  exact ⟨pairwise_mergeSort_le _, h, hcomes, hcomes.seen, w, b, _, pods, devices, t₁, t₂, t₃, t₄,
    hwait', hended, hseen, hd, List.mergeSort_perm ..⟩

/-- The removals of a migration go one at a time, however the cluster behaves and whenever the user
cancels. -/
theorem one_removal_at_a_time (server : Server σ) (cancelAt : Option Nat) (c : Context)
    (now : Nat) (s : σ) : OneAtATime server cancelAt c ⟨now, s, []⟩ := by
  have hfind : Asking (Prepares c.settings)
      ((Migration.find c).attempt.run server cancelAt ⟨now, s, []⟩).2.seen :=
    (sends_find c).run (cumulative_asking (Prepares c.settings)).nil
  constructor
  case listed =>
    intro osds t hl
    rw [hl.found] at hfind
    rw [hl.comes.run_eq]
    exact orderly_finish osds hfind
  case unlisted =>
    intro hnone
    -- the run ends before anything is found, or with nothing to remove
    have hends : ((migrate c).attempt.run server cancelAt ⟨now, s, []⟩).2 =
        ((Migration.find c).attempt.run server cancelAt ⟨now, s, []⟩).2 ∧
        ∀ removed, ((migrate c).attempt.run server cancelAt ⟨now, s, []⟩).1 ≠
          .done (.ok (.removed removed)) := by
      rw [migrate_find]
      rcases Job.run_bind_cases server cancelAt (Migration.find c) (Migration.conclude c)
        ⟨now, s, []⟩ with ⟨found, t, h⟩ | ⟨hsame, hn⟩
      · cases found with
        | none =>
            rw [Job.run_bind_of_ok h, h]
            exact ⟨rfl, nofun⟩
        | some osds => exact absurd (listed_of_found h) (hnone osds t)
      · exact ⟨hsame, fun removed => hn _⟩
    rw [← hends.1] at hfind
    refine ⟨hfind, ?_, hends.2⟩
    exact changes_eq_nil (fun e he => hfind e (List.mem_reverse.1 he)) fun _ => prepares_no_change

end Removal

end OsdMigration
