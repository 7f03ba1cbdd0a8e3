import OsdMigration.Proofs.Course.Composing
import OsdMigration.Proofs.Course.Times
import OsdMigration.Wait.OsdDown
import OsdMigration.Wait.Removability

set_option autoImplicit false

/-! # Crashes

The program crashes where a wait is to start that is given more time than is left of the clock, and
nowhere else. So a procedure whose waits are given no more than some time crashes only if the clock
ends within that time (`Procedure.CrashesLate`).
-/

namespace OsdMigration

variable {σ α β : Type} {server : Server σ} {cancelAt : Option Nat} {d : Nat}

namespace Procedure

/-- A procedure crashes only where the clock ends within so much time. -/
def CrashesLate (server : Server σ) (cancelAt : Option Nat) (d : Nat) (p : Procedure α) : Prop :=
  ∀ limit depth t message u, p.runWithin server cancelAt limit depth t = (.crashed message, u) →
    message = Pacer.beyondClock ∧ Clock.length ≤ u.time + d

theorem CrashesLate.bind {p : Procedure α} {f : α → Procedure β}
    (hp : CrashesLate server cancelAt d p) (hf : ∀ a, CrashesLate server cancelAt d (f a)) :
    CrashesLate server cancelAt d (p.bind f) := by
  intro limit depth t message u hr
  have hp := hp limit depth t
  rw [runWithin_bind] at hr
  rcases hfirst : p.runWithin server cancelAt limit depth t with ⟨a | _ | _ | _ | m, v⟩ <;>
    rw [hfirst] at hr hp
  · exact hf a limit depth v message u hr
  case crashed =>
    obtain ⟨rfl, rfl⟩ : m = message ∧ v = u := by simpa [Ending.andThen] using hr
    exact hp m v rfl
  all_goals cases hr

theorem CrashesLate.within {deadline : Option Nat} {work : Procedure β}
    {next : Except Interruption β → Procedure α} (hw : CrashesLate server cancelAt d work)
    (hn : ∀ o, CrashesLate server cancelAt d (next o)) :
    CrashesLate server cancelAt d (.within deadline work next) := by
  intro limit depth t message u hr
  simp only [runWithin] at hr
  split at hr
  · exact hn _ limit depth t message u hr
  · have hw := hw (Limit.earlier limit (Limit.ofWork cancelAt deadline depth)) (depth + 1) t
    generalize work.runWithin server cancelAt
      (Limit.earlier limit (Limit.ofWork cancelAt deadline depth)) (depth + 1) t = e at hr hw
    -- a crash of the work is not caught
    have hcaught : ∀ m v, Ending.caught depth e = (.crashed m, v) →
        m = Pacer.beyondClock ∧ Clock.length ≤ v.time + d := by
      intro m v he
      refine hw m v (Prod.ext (Ending.crashed_of_caught (congrArg Prod.fst he)) ?_)
      rw [← Ending.caught_snd depth, he]
    generalize Ending.caught depth e = caught at hr hcaught
    obtain ⟨o | _ | _ | _ | m, v⟩ := caught
    · exact hn o limit depth v message u hr
    case crashed =>
      obtain ⟨rfl, rfl⟩ : m = message ∧ v = u := by simpa [Ending.andThen] using hr
      exact hcaught m v rfl
    all_goals cases hr

variable (server) (cancelAt) (d)

theorem composing_crashesLate : Composing (CrashesLate server cancelAt d) where
  pure _ _ _ _ _ _ := nofun
  tell _ _ _ _ _ _ _ := nofun
  sleep e a limit depth t message u hr := by
    simp only [runWithin] at hr
    split at hr
    · cases hr
    · exact absurd (congrArg Prod.fst hr) (waiting_ne_crashed limit t message)
  call r limit depth t message u hr := by
    simp only [runWithin] at hr
    split at hr
    · exact absurd (congrArg Prod.fst hr) (waiting_ne_crashed limit _ message)
    · split at hr
      · cases hr
      · exact absurd (congrArg Prod.fst hr) (waiting_ne_crashed limit _ message)
  bind := CrashesLate.bind
  within _ := CrashesLate.within

end Procedure

namespace Job

/-- A job crashes only where the clock ends within so much time. -/
def CrashesLate (server : Server σ) (cancelAt : Option Nat) (d : Nat) (job : Job α) : Prop :=
  job.attempt.CrashesLate server cancelAt d

/-- A wait crashes at its start if the clock does not reach to its deadline. -/
theorem crashesLate_start (interval : Nat) {timeout : Option Nat} (h : ∀ e ∈ timeout, e ≤ d) :
    CrashesLate server cancelAt d (Pacer.start interval timeout) := by
  intro limit depth t message u hr
  by_cases hc : Clock.Reaches t.time timeout
  · rw [runWithin_start hc] at hr
    cases hr
  · rw [runWithin_start_beyond hc] at hr
    obtain ⟨rfl, rfl⟩ : Pacer.beyondClock = message ∧ t = u := by simpa using hr
    refine ⟨rfl, ?_⟩
    cases timeout with
    | none => exact absurd (Clock.reaches_none _) hc
    | some e =>
        have hle := h e rfl
        rw [Clock.reaches_some] at hc
        omega

theorem crashesLate_wait {ω : Type} {p : Pacer} {stopped : ω → Interruption → Failure}
    {poll : ω → Job (Poll ω)} (hp : ∀ w, CrashesLate server cancelAt d (poll w)) (n : Nat)
    (w : ω) : CrashesLate server cancelAt d (p.wait stopped poll n w) := by
  have hC := Procedure.composing_crashesLate server cancelAt d
  induction n generalizing w with
  | zero => exact fun _ _ _ _ _ => nofun
  | succ n ih =>
      refine hC.andThen (hp w) fun outcome => ?_
      cases outcome with
      | met => exact hC.ofAttempt (.ok ())
      | again w' passing =>
          refine hC.andThen ?_ fun _ => hC.andThen (hC.guarded p _ (hC.sleep _ _)) fun _ => ih w'
          cases passing with
          | none => exact hC.ofAttempt (.ok ())
          | some text => exact hC.tell _ _

end Job

/-! ## The polls of a migration -/

variable (server) (cancelAt) (c : Context)

theorem crashesLate_awaitScale (name : String) (scale : Int) (timeout : Nat) :
    Job.CrashesLate server cancelAt timeout (awaitScale c name scale timeout) := by
  have hC := Procedure.composing_crashesLate server cancelAt timeout
  have hstart : ∀ e ∈ some timeout, e ≤ timeout := fun e he =>
    Nat.le_of_eq (Option.some.inj he).symm
  refine hC.andThen (hC.report _) fun _ => hC.andThen (Job.crashesLate_start _ hstart) fun p =>
    Job.crashesLate_wait (fun w => ?_) _ _
  exact hC.andThen (hC.guarded _ _ (hC.call _)) fun _ => hC.ofAttempt _

/-- Fetching a report crashes only where the clock ends within the time that the toolbox is given to
start. -/
theorem crashesLate_fetchStatus : Job.CrashesLate server cancelAt
    (Settings.seconds c.settings.toolboxTimeout) (Monitor.fetchStatus c) := by
  have hC := Procedure.composing_crashesLate server cancelAt
    (Settings.seconds c.settings.toolboxTimeout)
  exact hC.fetchStatus (hC.during _ (crashesLate_awaitScale server cancelAt c _ _ _))

end OsdMigration
