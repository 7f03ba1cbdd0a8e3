import OsdMigration.Proofs.Removal.Order
import OsdMigration.Proofs.Removal.Stages
import OsdMigration.Proofs.Resumption.Serving

set_option autoImplicit false

/-! # What is seen of a migration that succeeds

It goes by one listing of the OSDs: either none of them is on a host directory and nothing is done,
or each of those that are is removed, which means that it was purged and its deployment deleted.
-/

namespace OsdMigration

open Ceph (Command)
open Cluster (Pod)
open Job (Course)
open Migration (Outcome removeAll)
open Removal (Step)

variable {c : Context} {seen : List Event}

/-- The OSD was purged and its deployment deleted. -/
def Gone (s : Settings) (osd : UInt32) (seen : List Event) : Prop :=
  (∃ e ∈ seen, e.Purged osd) ∧ ∃ e ∈ seen, e.Deleted s osd

theorem Gone.append_left {s : Settings} {osd : UInt32} (h : Gone s osd seen) (more : List Event) :
    Gone s osd (more ++ seen) := by
  obtain ⟨⟨e, he, hp⟩, f, hf, hd⟩ := h
  exact ⟨⟨e, List.mem_append_right _ he, hp⟩, f, List.mem_append_right _ hf, hd⟩

theorem Gone.append_right {s : Settings} {osd : UInt32} (h : Gone s osd seen) (more : List Event) :
    Gone s osd (seen ++ more) := by
  obtain ⟨⟨e, he, hp⟩, f, hf, hd⟩ := h
  exact ⟨⟨e, List.mem_append_left _ he, hp⟩, f, List.mem_append_left _ hf, hd⟩

theorem course_purge_ok {osd : UInt32}
    (h : Course (Step.purge.perform c osd) seen (some (.ok ()))) : ∃ e ∈ seen, e.Purged osd := by
  obtain ⟨ready, rest, o', rfl, _, hx, ho⟩ := Removal.course_command h
  obtain ⟨output, rfl⟩ := ho.1 rfl
  obtain ⟨hcode, t, u, pod, container, rfl⟩ := hx.of_ok
  exact ⟨.answered u (.exec c.settings.space pod container (Command.purge osd).argv) (.ok output),
    by simp, rfl, hcode⟩

theorem course_cleanUp_ok {osd : UInt32}
    (h : Course (Step.cleanUp.perform c osd) seen (some (.ok ()))) :
    ∃ e ∈ seen, e.Deleted c.settings osd := by
  obtain ⟨t, u, rfl⟩ := (Job.course_ask_ok ..).1 ((Job.course_during_ok ..).1 h)
  exact ⟨.answered u (.deleteDeployment c.settings.space (c.settings.osdDeployment osd)) (.ok ()),
    by simp, rfl, rfl⟩

theorem course_removeOsd_ok {osd : UInt32}
    (h : Course (removeOsd c osd) seen (some (.ok ()))) : Gone c.settings osd seen := by
  rw [Removal.removeOsd_eq] at h
  obtain ⟨_, first, _, rfl, _, h₁⟩ := (Job.course_bind_ok ..).1 h
  obtain ⟨_, second, _, rfl, _, h₂⟩ := (Job.course_bind_ok ..).1 h₁
  obtain ⟨_, third, _, rfl, _, h₃⟩ := (Job.course_bind_ok ..).1 h₂
  obtain ⟨_, fourth, _, rfl, _, h₄⟩ := (Job.course_bind_ok ..).1 h₃
  obtain ⟨_, fifth, _, rfl, _, h₅⟩ := (Job.course_bind_ok ..).1 h₄
  obtain ⟨_, sixth, _, rfl, _, h₆⟩ := (Job.course_bind_ok ..).1 h₅
  obtain ⟨_, purging, _, rfl, hp, h₇⟩ := (Job.course_bind_ok ..).1 h₆
  obtain ⟨_, deleting, last, rfl, hd, _⟩ := (Job.course_bind_ok ..).1 h₇
  have hgone : Gone c.settings osd (purging ++ (deleting ++ last)) := by
    obtain ⟨e, he, hpurged⟩ := course_purge_ok hp
    obtain ⟨f, hf, hdeleted⟩ := course_cleanUp_ok hd
    exact ⟨⟨e, by simp [he], hpurged⟩, f, by simp [hf], hdeleted⟩
  exact (((((hgone.append_left sixth).append_left fifth).append_left fourth).append_left
    third).append_left second).append_left first

theorem course_removeAll_ok {osds : List UInt32}
    (h : Course (removeAll c osds) seen (some (.ok ()))) :
    ∀ osd ∈ osds, Gone c.settings osd seen := by
  induction osds generalizing seen with
  | nil => exact fun _ hm => absurd hm List.not_mem_nil
  | cons first osds ih =>
      obtain ⟨_, part, rest, rfl, hf, hr⟩ := (Job.course_bind_ok ..).1 h
      intro osd hm
      rcases List.mem_cons.1 hm with rfl | hm
      · exact (course_removeOsd_ok ((Job.course_during_ok ..).1 hf)).append_right rest
      · exact (ih hr osd hm).append_left part

/-- The listing that a migration which succeeds goes by, and what it does then. -/
inductive Succeeded (s : Settings) : List Event → Prop
  | intro {before after : List Event} {u : Nat} {pods : List Pod} {devices : List Osd.Device}
      (prepares : Asking (Prepares s) before)
      (listed : Osd.ofPods s pods = .ok devices)
      (done : Asking (Prepares s) after ∧ (Osd.countHosts devices).hostpath = 0 ∨
        (∀ osd ∈ Osd.onHostpath devices, Gone s osd after) ∧
          Asking (fun r => ∃ osd ∈ Osd.onHostpath devices, ∃ step : Step,
            step.Sent s osd r) after) :
      Succeeded s (before ++
        .answered u (.listPods s.space s.osdSelector) (.ok pods) :: after)

/-- The listing comes first. -/
theorem succeeded_of_listing {s : Settings} {after : List Event} {t u : Nat} {pods : List Pod}
    {devices : List Osd.Device} (hl : Osd.ofPods s pods = .ok devices)
    (hd : Asking (Prepares s) after ∧ (Osd.countHosts devices).hostpath = 0 ∨
      (∀ osd ∈ Osd.onHostpath devices, Gone s osd after) ∧
        Asking (fun r => ∃ osd ∈ Osd.onHostpath devices, ∃ step : Step, step.Sent s osd r) after) :
    Succeeded s ([.called t (.listPods s.space s.osdSelector),
      .answered u (.listPods s.space s.osdSelector) (.ok pods)] ++ after) := by
  have hcalled : Asking (Prepares s) [.called t (.listPods s.space s.osdSelector)] := by
    intro e he r hr
    rw [List.mem_singleton.1 he] at hr
    exact Option.some.inj hr ▸ .osdPods
  show Succeeded s ([.called t _] ++ .answered u _ _ :: after)
  exact .intro hcalled hl hd

/-- What is prepared before comes before the listing. -/
theorem Succeeded.append_left {s : Settings} (h : Succeeded s seen) {front : List Event}
    (hf : Asking (Prepares s) front) : Succeeded s (front ++ seen) := by
  obtain ⟨hp, hl, hd⟩ := h
  rw [← List.append_assoc]
  exact .intro ((cumulative_asking _).append hf hp) hl hd

theorem succeeded_bind {α : Type} {job : Job α} {f : α → Job Outcome} {outcome : Outcome}
    (hs : Job.Sends (Prepares c.settings) job)
    (h : Course (job >>= f) seen (some (.ok outcome)))
    (hf : ∀ a rest, Course (f a) rest (some (.ok outcome)) → Succeeded c.settings rest) :
    Succeeded c.settings seen := by
  obtain ⟨a, first, rest, rfl, hj, hr⟩ := (Job.course_bind_ok ..).1 h
  exact (hf a rest hr).append_left (hs _ _ hj)

/-- A migration that succeeds. -/
theorem course_migrate_ok {outcome : Outcome}
    (h : Course (migrate c) seen (some (.ok outcome))) : Succeeded c.settings seen := by
  have hA := cumulative_asking (Prepares c.settings)
  refine succeeded_bind (sends_prepare c) h fun _ seen h => ?_
  refine succeeded_bind (hA.report _) h fun _ seen h => ?_
  obtain ⟨counts, first, rest, rfl, hcount, hrest⟩ := (Job.course_bind_ok ..).1 h
  -- one of two listings decides: the first if nothing is to be removed, else that of the work list
  split at hrest
  · rename_i hzero
    obtain ⟨t, u, pods, devices, rfl, hl, rfl⟩ :=
      Osd.course_countHostsNow_ok ((Job.course_during_ok ..).1 hcount)
    have hlast : Asking (Prepares c.settings) rest :=
      (hA.bind (hA.report _) fun _ => hA.pure _) _ _ hrest
    exact succeeded_of_listing hl (.inl ⟨hlast, hzero⟩)
  · refine Succeeded.append_left ?_ (Cumulative.during _ (sends_countHostsNow c) _ _ hcount)
    refine succeeded_bind (hA.report _) hrest fun _ seen h => ?_
    refine succeeded_bind (sends_provision c) h fun _ seen h => ?_
    simp only [Migration.drain, bind_assoc, pure_bind] at h
    refine succeeded_bind (hA.report _) h fun _ seen h => ?_
    obtain ⟨found, listing, rest, rfl, hlist, hrest⟩ := (Job.course_bind_ok ..).1 h
    obtain ⟨t, u, pods, devices, rfl, hl, rfl⟩ :=
      Osd.course_hostpathOsds_ok ((Job.course_during_ok ..).1 hlist)
    obtain ⟨_, said, _, rfl, hsaid, hr⟩ := (Job.course_bind_ok ..).1 hrest
    obtain ⟨_, removals, last, rfl, hremoved, hlast⟩ := (Job.course_bind_ok ..).1 hr
    have hmem : ∀ osd, osd ∈ (Osd.onHostpath devices).mergeSort ↔ osd ∈ Osd.onHostpath devices :=
      fun osd => (List.mergeSort_perm ..).mem_iff
    refine succeeded_of_listing hl (.inr ⟨fun osd hosd => ?_, ?_⟩)
    · have hgone := course_removeAll_ok hremoved osd ((hmem osd).2 hosd)
      exact (hgone.append_right last).append_left said
    · have hB := cumulative_asking (fun r => ∃ osd ∈ Osd.onHostpath devices, ∃ step : Step,
        step.Sent c.settings osd r)
      refine hB.append (hB.report _ _ _ hsaid) (hB.append ?_ ?_)
      · refine (Removal.sends_removeAll c _ _ _ hremoved).mono ?_
        rintro r ⟨osd, hosd, hstep⟩
        exact ⟨osd, (hmem osd).1 hosd, hstep⟩
      · exact (hB.bind (hB.report _) fun _ => hB.pure _) _ _ hlast

end OsdMigration
