import OsdMigration.Proofs.Course.Composing
import OsdMigration.Proofs.Course.Times
import OsdMigration.Wait.BlockHosts
import OsdMigration.Wait.OsdDown
import OsdMigration.Wait.Removability

set_option autoImplicit false

/-! # How long the polls last

A wait has a bound on the number of its polls. Between two polls lies a pause, so where the bound is
reached at least that many pauses have passed (`Patient`). A bound that is large enough therefore
makes no difference before a given instant.
-/

namespace OsdMigration

open Cluster (Request)

variable {σ α β : Type} {server : Server σ} {cancelAt : Option Nat} {d : Nat}

namespace Procedure

/-- If the polls run out in a run of a procedure, at least so much time has passed. -/
def Patient (server : Server σ) (cancelAt : Option Nat) (d : Nat) (p : Procedure α) : Prop :=
  ∀ limit depth t, Ahead t.time limit → (∀ l ∈ limit, l.depth < depth) →
    (p.runWithin server cancelAt limit depth t).1 = .exhausted →
      t.time + d ≤ (p.runWithin server cancelAt limit depth t).2.time

/-- A procedure comes to this result only after so much time. -/
def Takes (server : Server σ) (cancelAt : Option Nat) (d : Nat) (p : Procedure α) (a : α) : Prop :=
  ∀ limit depth t, Ahead t.time limit → (∀ l ∈ limit, l.depth < depth) →
    ∀ u, p.runWithin server cancelAt limit depth t = (.done a, u) → t.time + d ≤ u.time

theorem takes_zero (p : Procedure α) (a : α) : Takes server cancelAt 0 p a := by
  intro limit depth t hl hd u hr
  have h := (inTime_runWithin server cancelAt p limit depth t hl hd).le_time
  rw [hr] at h
  exact h

theorem takes_sleep (e : Nat) : Takes server cancelAt e (.sleep e (.pure ())) () := by
  intro limit depth t _ _ u hr
  simp only [runWithin] at hr
  split at hr
  · rename_i v hv
    obtain ⟨hv, _⟩ := ahead_before hv
    cases hv
    cases hr
    exact Nat.le_refl _
  · cases limit <;> cases hr

/-- Guarded work takes the time of the work. -/
theorem Takes.guarded {p : Pacer} {stopped : Interruption → Failure} {work : Procedure α} {a : α}
    {e : Nat} (h : Takes server cancelAt e work a) :
    Takes server cancelAt e (p.guarded stopped work).attempt (.ok a) := by
  intro limit depth t hl hd u hr
  change (Procedure.within p.deadline work fun o =>
    .pure (o.mapError stopped)).runWithin server cancelAt limit depth t = _ at hr
  simp only [runWithin] at hr
  split at hr
  · cases hr
  · rename_i hs
    obtain ⟨hinner, hdepth⟩ := inner_limit hl hd hs
    have hw := h _ (depth + 1) t hinner hdepth
    rcases hrun : work.runWithin server cancelAt
      (Limit.earlier limit (Limit.ofWork cancelAt p.deadline depth)) (depth + 1) t with
      ⟨b | ⟨cause, b⟩ | _ | _ | _, v⟩ <;> rw [hrun] at hr
    · cases hr
      exact hw _ hrun
    · simp only [Ending.caught] at hr
      split at hr <;> cases hr
    all_goals cases hr

namespace Patient

theorem mono {p : Procedure α} (h : Patient server cancelAt d p) {e : Nat} (he : e ≤ d) :
    Patient server cancelAt e p := fun limit depth t hl hd hx =>
  Nat.le_trans (Nat.add_le_add_left he _) (h limit depth t hl hd hx)

/-- The time that the first procedure takes to its result counts. -/
theorem bind_takes {p : Procedure α} {f : α → Procedure β} (hp : Patient server cancelAt d p)
    (hf : ∀ a, ∃ e, Takes server cancelAt e p a ∧ Patient server cancelAt (d - e) (f a)) :
    Patient server cancelAt d (p.bind f) := by
  intro limit depth t hl hd hx
  have htime := inTime_runWithin server cancelAt p limit depth t hl hd
  have hp := hp limit depth t hl hd
  rw [runWithin_bind] at hx ⊢
  rcases hr : p.runWithin server cancelAt limit depth t with ⟨a | ⟨cause, b⟩ | _ | _ | _, u⟩ <;>
    rw [hr] at hx hp htime
  · obtain ⟨e, ht, hf⟩ := hf a
    have htaken := ht limit depth t hl hd u hr
    have hlast := hf limit depth u (htime.ahead a rfl) hd hx
    change t.time + d ≤ ((f a).runWithin server cancelAt limit depth u).2.time
    omega
  · cases hx
  · cases hx
  · exact hp rfl
  · cases hx

theorem bind {p : Procedure α} {f : α → Procedure β} (hp : Patient server cancelAt d p)
    (hf : ∀ a, Patient server cancelAt d (f a)) : Patient server cancelAt d (p.bind f) :=
  hp.bind_takes fun a => ⟨0, takes_zero p a, hf a⟩

theorem within {deadline : Option Nat} {work : Procedure β}
    {next : Except Interruption β → Procedure α} (hw : Patient server cancelAt d work)
    (hn : ∀ o, Patient server cancelAt d (next o)) :
    Patient server cancelAt d (.within deadline work next) := by
  intro limit depth t hl hd hx
  simp only [runWithin] at hx ⊢
  split at hx
  · exact hn _ limit depth t hl hd hx
  · rename_i hs
    obtain ⟨hinner, hdepth⟩ := inner_limit hl hd hs
    have hw := hw _ (depth + 1) t hinner hdepth
    have ht := (inTime_runWithin server cancelAt work _ (depth + 1) t hinner hdepth).caught hd
    have hcaught := fun he => hw (@Ending.exhausted_of_caught _ _ depth _ he)
    rw [← Ending.caught_snd depth] at hcaught
    generalize Ending.caught depth (work.runWithin server cancelAt
      (Limit.earlier limit (Limit.ofWork cancelAt deadline depth)) (depth + 1) t) = e
      at hx hcaught ht
    obtain ⟨o | _ | _ | _ | _, u⟩ := e
    · exact Nat.le_trans (Nat.add_le_add_right ht.le_time d)
        (hn o limit depth u (ht.ahead o rfl) hd hx)
    · cases hx
    · cases hx
    · exact hcaught rfl
    · cases hx

end Patient

variable (server) (cancelAt) (d)

theorem composing_patient : Composing (Patient server cancelAt d) where
  pure _ := nofun
  tell _ _ := nofun
  sleep e a limit depth t _ _ hx := by
    simp only [runWithin] at hx
    split at hx
    · cases hx
    · exact absurd hx (waiting_ne_exhausted limit t)
  call r limit depth t _ _ hx := by
    simp only [runWithin] at hx
    split at hx
    · exact absurd hx (waiting_ne_exhausted limit _)
    · split at hx
      · cases hx
      · exact absurd hx (waiting_ne_exhausted limit _)
  bind := Patient.bind
  within _ := Patient.within

end Procedure

namespace Job

/-- If the polls run out in a run of a job, at least so much time has passed. -/
def Patient (server : Server σ) (cancelAt : Option Nat) (d : Nat) (job : Job α) : Prop :=
  job.attempt.Patient server cancelAt d

/-- The polls of a wait last as long as the pauses between them. -/
theorem Patient.wait {ω : Type} {p : Pacer} {stopped : ω → Interruption → Failure}
    {poll : ω → Job (Poll ω)} (hp : ∀ w, Patient server cancelAt d (poll w)) {n : Nat}
    (hn : d ≤ n * p.interval) (w : ω) : Patient server cancelAt d (p.wait stopped poll n w) := by
  have hC := Procedure.composing_patient server cancelAt d
  induction n generalizing d w with
  | zero =>
      intro limit depth t _ _ _
      have hd : d = 0 := by omega
      exact Nat.le_of_eq (congrArg (t.time + ·) hd)
  | succ n ih =>
      have hn' : d - p.interval ≤ n * p.interval := by
        rw [Nat.succ_mul] at hn
        omega
      refine hC.andThen (hp w) fun outcome => ?_
      cases outcome with
      | met => exact hC.ofAttempt (.ok ())
      | again w' passing =>
          refine hC.andThen ?_ fun _ => ?_
          · cases passing with
            | none => exact hC.ofAttempt (.ok ())
            | some text => exact hC.tell _ _
          -- the pause takes its time if it is not interrupted
          have hpause : Patient server cancelAt d
              (p.guarded (stopped w') (.sleep p.interval (.pure ()))) :=
            hC.guarded p _ (hC.sleep _ _)
          rw [attempt_bind]
          refine Procedure.Patient.bind_takes hpause fun a => ?_
          cases a with
          | error e => exact ⟨0, Procedure.takes_zero _ _, nofun⟩
          | ok _ =>
              refine ⟨p.interval, (Procedure.takes_sleep _).guarded, ?_⟩
              exact ih (fun w => (hp w).mono (Nat.sub_le ..)) hn' w' (Procedure.composing_patient ..)

/-- A wait starts with a pacer of its interval. -/
theorem Patient.start_bind {interval : Nat} {timeout : Option Nat} {f : Pacer → Job α}
    (hf : ∀ deadline, Patient server cancelAt d (f ⟨interval, deadline⟩)) :
    Patient server cancelAt d (Pacer.start interval timeout >>= f) := by
  intro limit depth t hl hd hx
  rw [attempt_bind, Procedure.runWithin_bind] at hx ⊢
  by_cases hr : Clock.Reaches t.time timeout
  · rw [runWithin_start hr] at hx ⊢
    exact hf _ limit depth t hl hd hx
  · rw [runWithin_start_beyond hr] at hx
    cases hx

end Job

/-! ## The waits of a migration -/

section

open Job (Patient)

variable (server) (cancelAt) (c : Context)

/-- How long the polls of a wait last at least. -/
def Context.pollTime (c : Context) : Nat := c.polls * c.settings.interval.toNat

theorem patient_awaitScale (name : String) (scale : Int) (timeout : Nat) :
    Patient server cancelAt c.pollTime (awaitScale c name scale timeout) := by
  have hC := Procedure.composing_patient server cancelAt c.pollTime
  refine hC.andThen (hC.report _) fun _ => Patient.start_bind fun deadline =>
    Patient.wait (fun w => ?_) (Nat.le_refl _) _
  exact hC.andThen (hC.guarded _ _ (hC.call _)) fun _ => hC.ofAttempt _

theorem patient_fetchStatus : Patient server cancelAt c.pollTime (Monitor.fetchStatus c) := by
  have hC := Procedure.composing_patient server cancelAt c.pollTime
  exact hC.fetchStatus (hC.during _ (patient_awaitScale server cancelAt c _ _ _))

theorem patient_awaitHealth (timeout : Option Nat) :
    Patient server cancelAt c.pollTime (awaitHealth c timeout) := by
  have hC := Procedure.composing_patient server cancelAt c.pollTime
  refine Patient.start_bind fun deadline => hC.andThen (hC.report _) fun _ =>
    Patient.wait (fun w => ?_) (Nat.le_refl _) _
  exact hC.andThen (hC.guarded _ _ (patient_fetchStatus server cancelAt c)) fun _ => hC.ofAttempt _

theorem patient_awaitRemovable (osd : UInt32) (timeout : Option Nat) :
    Patient server cancelAt c.pollTime (awaitRemovable c osd timeout) := by
  have hC := Procedure.composing_patient server cancelAt c.pollTime
  refine Patient.start_bind fun deadline => Patient.wait (fun w => ?_) (Nat.le_refl _) _
  refine hC.andThen (hC.guarded _ _ (patient_fetchStatus server cancelAt c)) fun report => ?_
  cases report with
  | error f => exact hC.ofAttempt _
  | ok status =>
      simp only
      split
      · exact hC.andThen (hC.guarded _ _ (hC.askRemovability osd)) fun _ => hC.ofAttempt _
      · exact hC.ofAttempt _

theorem patient_awaitOsdDown (timeout : Option Nat) :
    Patient server cancelAt c.pollTime (awaitOsdDown c timeout) := by
  have hC := Procedure.composing_patient server cancelAt c.pollTime
  refine Patient.start_bind fun deadline => Patient.wait (fun w => ?_) (Nat.le_refl _) _
  exact hC.andThen (hC.guarded _ _ (patient_fetchStatus server cancelAt c)) fun _ => hC.ofAttempt _

end

end OsdMigration
