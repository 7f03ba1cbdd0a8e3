import OsdMigration.Proofs.Course.Times
import OsdMigration.Proofs.Wait

set_option autoImplicit false

/-! # What a wait for health has seen

A wait for health that ends well has seen as many healthy reports in a row as are wanted, and its
deadline was still ahead.
-/

namespace OsdMigration

open Ceph (Status)
open Job (Course EndsBefore)

/-- A poll that found the cluster healthy: a report was fetched, by one command and no other, and
says so. -/
def HealthyPoll (c : Context) (poll : List Event) : Prop :=
  ∃ fetched pause status, poll = fetched ++ pause ∧
    Course (Monitor.fetchStatus c) fetched (some (.ok status)) ∧ Reported status fetched ∧
    status.verdict.1 = true ∧ Quiet pause

theorem HealthyPoll.append {c : Context} {poll pause : List Event} (h : HealthyPoll c poll)
    (hp : Quiet pause) : HealthyPoll c (poll ++ pause) := by
  obtain ⟨fetched, first, status, rfl, hf, hr, hv, hq⟩ := h
  exact ⟨fetched, first ++ pause, status, by simp, hf, hr, hv, (cumulative_asking _).append hq hp⟩

/-- What one report leads to: it was healthy and counts, or the count starts again. -/
theorem observe_health {wanted : Nat} {w : HealthWait} {answer : Attempt Status}
    {outcome : Poll HealthWait} (h : HealthWait.observe wanted w answer = .ok outcome) :
    ((∃ status, answer = .ok status ∧ status.verdict.1 = true) ∧
      ((outcome = .met ∧ wanted ≤ w.streak + 1) ∨
        ∃ w' passing, outcome = .again w' passing ∧ w'.streak = w.streak + 1 ∧
          w.streak + 1 < wanted)) ∨
    ∃ w' passing, outcome = .again w' passing ∧ w'.streak = 0 := by
  unfold HealthWait.observe at h
  split at h
  · rename_i status
    simp only at h
    split at h
    · refine .inl ⟨⟨status, rfl, ‹_›⟩, ?_⟩
      split at h
      · cases h
        exact .inl ⟨rfl, ‹_›⟩
      · cases h
        exact .inr ⟨_, _, rfl, rfl, by omega⟩
    · cases h
      exact .inr ⟨_, _, rfl, rfl⟩
  · obtain ⟨budget, _, h⟩ := bind_ok h
    cases h
    exact .inr ⟨_, _, rfl, rfl⟩

/-- The polls of a wait for health count healthy reports. -/
theorem course_wait_health {c : Context} {p : Pacer} {n : Nat} {w : HealthWait}
    {seen : List Event} (hw : w.streak = 0)
    (h : Course (p.wait HealthWait.stopped
      (HealthWait.poll c (confirmations c.settings.healthConfirmations) p) n w) seen
        (some (.ok ()))) :
    Streak (HealthyPoll c) (confirmations c.settings.healthConfirmations) seen := by
  refine wait_streak HealthWait.streak (confirmations_pos _) (fun _ _ => HealthyPoll.append) ?_ hw h
  intro w seen outcome hp
  obtain ⟨answer, fetched, _, rfl, ha, rfl, ho⟩ := (Job.course_bind_ok ..).1 hp
  rcases observe_health (Option.some.inj ho).symm with ⟨⟨status, rfl, hv⟩, hcounts⟩ | hstarts
  · have hfetched := (Job.course_guarded_ok ..).1 ha
    exact .inl ⟨⟨fetched, [], status, rfl, hfetched, course_fetchStatus_ok hfetched, hv,
      (cumulative_asking _).nil⟩, hcounts⟩
  · exact .inr hstarts

variable {σ : Type} {server : Server σ} {cancelAt : Option Nat} {t u : Timeline σ}

/-- A wait for health that ends well does so before its deadline, right after a streak of healthy
polls. -/
theorem run_awaitHealth_ok {c : Context} {timeout : Nat}
    (h : (awaitHealth c (some timeout)).attempt.run server cancelAt t = (.done (.ok ()), u)) :
    u.time < t.time + timeout ∧ ∃ waited,
      u.seen.reverse = t.seen.reverse ++
        .told t.time (.line "Waiting for Rook-Ceph to be healthy") :: waited ∧
      Streak (HealthyPoll c) (confirmations c.settings.healthConfirmations) waited := by
  obtain ⟨p, t₁, hstart, h⟩ := Job.run_bind_ok h
  obtain ⟨_, rfl, hsame⟩ := Job.run_start_ok hstart
  subst t₁
  obtain ⟨_, t₂, hsaid, h⟩ := Job.run_bind_ok h
  rw [Job.run_report] at hsaid
  obtain rfl := (Prod.mk.inj hsaid).2
  constructor
  · have hends : EndsBefore server cancelAt (t.time + timeout) (Pacer.wait
        ⟨c.settings.interval.toNat, some (t.time + timeout)⟩ HealthWait.stopped
        (HealthWait.poll c (confirmations c.settings.healthConfirmations)
          ⟨c.settings.interval.toNat, some (t.time + timeout)⟩) c.polls
        ⟨c.settings.budget "fetch ceph status", 0, ""⟩) :=
      EndsBefore.wait _ _ (fun w => (EndsBefore.guarded_deadline _ _ rfl).bind_instant
        fun _ => Job.instant_ofAttempt _) _ _
    exact hends _ _ _ h
  · obtain ⟨waited, hs, hc⟩ := Job.course_run_ok h
    exact ⟨waited, by simp [hs], course_wait_health rfl hc⟩

end OsdMigration
