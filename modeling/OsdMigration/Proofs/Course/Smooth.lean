import OsdMigration.Proofs.Course.Runs
import OsdMigration.Proofs.Course.Times
import OsdMigration.Proofs.Reports

set_option autoImplicit false

/-! # Smooth runs

To show that something can happen, a run is needed in which it does. A server that answers every
request at once lets the clock stand still but for pauses, and a job runs smoothly (`Smooth`) if
each of its requests is answered as it needs and it is done before any deadline. The reports read on
the way are kept, since it is they that decide what a wait makes of them.
-/

namespace OsdMigration

open Ceph (Status)
open Cluster (Request)

namespace Job

variable {σ α β : Type}

/-- A job that begins at an instant runs to a result by a later one: the server goes from one state
to another and gives these reports. -/
def Smooth (server : Server σ) (job : Job α) (now : Nat) (s : σ) (a : α) (later : Nat) (s' : σ)
    (rs : List Status) : Prop :=
  ∀ limit depth seen, Procedure.Ahead later limit → ∃ added, reports added = rs ∧
    job.attempt.runWithin server none limit depth ⟨now, s, seen⟩ =
      (.done (.ok a), ⟨later, s', added.reverse ++ seen⟩)

namespace Smooth

variable {server : Server σ} {now later last : Nat} {s s' s'' : σ} {rs rs' : List Status}

/-- What a smooth run adds is a course of the job. -/
theorem run {job : Job α} {a : α} (h : Smooth server job now s a later s' rs)
    (seen : List Event) :
    ∃ added, reports added = rs ∧ Course job added (some (.ok a)) ∧
      job.attempt.run server none ⟨now, s, seen⟩ =
        (.done (.ok a), ⟨later, s', added.reverse ++ seen⟩) := by
  obtain ⟨added, hr, hrun⟩ := h none 0 seen nofun
  obtain ⟨part, hs, hc⟩ := course_run_ok hrun
  obtain rfl : added = part := List.reverse_inj.1 (List.append_cancel_right hs)
  exact ⟨added, hr, hc, hrun⟩

/-- The clock does not go back. -/
theorem le_time {job : Job α} {a : α} (h : Smooth server job now s a later s' rs) :
    now ≤ later := by
  obtain ⟨added, _, _, hrun⟩ := h.run []
  have htime := Procedure.le_time_run server none job.attempt ⟨now, s, []⟩
  rwa [hrun] at htime

theorem bind {job : Job α} {f : α → Job β} {a : α} {b : β}
    (hj : Smooth server job now s a later s' rs)
    (hf : Smooth server (f a) later s' b last s'' rs') :
    Smooth server (job >>= f) now s b last s'' (rs ++ rs') := by
  intro limit depth seen hl
  have hle := hf.le_time
  obtain ⟨first, rfl, hfirst⟩ := hj limit depth seen fun l hm => Nat.lt_of_le_of_lt hle (hl l hm)
  obtain ⟨rest, rfl, hrest⟩ := hf limit depth (first.reverse ++ seen) hl
  refine ⟨first ++ rest, reports_append .., ?_⟩
  rw [attempt_bind, Procedure.runWithin_bind, hfirst]
  change (f a).attempt.runWithin server none limit depth _ = _
  rw [hrest, List.reverse_append, List.append_assoc]

/-- No report is read in the first part. -/
theorem silent_bind {job : Job α} {f : α → Job β} {a : α} {b : β}
    (hj : Smooth server job now s a later s' [])
    (hf : Smooth server (f a) later s' b last s'' rs) :
    Smooth server (job >>= f) now s b last s'' rs := hj.bind hf

/-- No report is read in the second part. -/
theorem bind_silent {job : Job α} {f : α → Job β} {a : α} {b : β}
    (hj : Smooth server job now s a later s' rs)
    (hf : Smooth server (f a) later s' b last s'' []) :
    Smooth server (job >>= f) now s b last s'' rs := by
  have h := hj.bind hf
  rw [List.append_nil] at h
  exact h

theorem pure (a : α) : Smooth server (Pure.pure a : Job α) now s a now s [] :=
  fun _ _ _ _ => ⟨[], rfl, rfl⟩

theorem ofAttempt {o : Attempt α} {a : α} (h : o = .ok a) :
    Smooth server (Job.ofAttempt o) now s a now s [] := by
  subst h
  exact pure a

theorem tell (m : Message) : Smooth server (Job.tell m) now s () now s [] :=
  fun _ _ _ _ => ⟨[.told now m], rfl, rfl⟩

theorem report (text : String) : Smooth server (Job.report text) now s () now s [] := tell _

/-- The result may be changed at the end. -/
theorem map {job : Job α} {a : α} {b : β} {f : Attempt α → Attempt β}
    (h : Smooth server job now s a later s' rs) (hf : f (.ok a) = .ok b) :
    Smooth server (.mk (job.attempt.bind fun o => .pure (f o))) now s b later s' rs := by
  intro limit depth seen hl
  obtain ⟨added, hr, h⟩ := h limit depth seen hl
  refine ⟨added, hr, ?_⟩
  change (job.attempt.bind _).runWithin server none limit depth _ = _
  rw [Procedure.runWithin_bind, h, ← hf]
  rfl

theorem during {job : Job α} {a : α} (step : String)
    (h : Smooth server job now s a later s' rs) :
    Smooth server (job.during step) now s a later s' rs := h.map rfl

/-- A wait starts if the clock reaches to its deadline. -/
theorem start (interval : Nat) {timeout : Option Nat} (h : Clock.Reaches now timeout) :
    Smooth server (Pacer.start interval timeout) now s ⟨interval, timeout.map (now + ·)⟩ now s [] :=
  fun _ _ seen _ => ⟨[], rfl, runWithin_start (t := ⟨now, s, seen⟩) h⟩

/-- What is due by an instant that no limit precedes comes in time. -/
theorem before?_of_ahead {limit : Option Limit} (hl : Procedure.Ahead later limit) :
    Limit.before? limit (some later) = some later := by
  cases limit with
  | none => rfl
  | some l =>
      have := hl l rfl
      simp [Limit.before?, this]

/-- A request that is answered at once. -/
theorem call {r : Request} {a : Attempt r.Reply} {limit : Option Limit} {depth : Nat}
    {seen : List Event} (hr : server.receive now r s = (some 0, s'))
    (ha : server.answer now r s' = (some a, s'')) (hl : Procedure.Ahead now limit) :
    (Procedure.call r .pure).runWithin server none limit depth ⟨now, s, seen⟩ =
      (.done a, ⟨now, s'', [.called now r, .answered now r a].reverse ++ seen⟩) := by
  have hb : Limit.before? limit (some (now + 0)) = some now := before?_of_ahead hl
  simp only [Procedure.runWithin, hr, Option.map_some, hb, ha]
  rfl

theorem ask {r : Request} {a : r.Reply} (hr : server.receive now r s = (some 0, s'))
    (ha : server.answer now r s' = (some (.ok a), s'')) :
    Smooth server (Job.ask r) now s a now s''
      (reports [.called now r, .answered now r (.ok a)]) :=
  fun _ _ _ hl => ⟨_, rfl, call hr ha hl⟩

/-- Work that is done before a deadline does not come to its limit. -/
theorem ahead_of_deadline {deadline : Option Nat} {limit : Option Limit} (depth : Nat)
    (hle : now ≤ later) (hd : ∀ d ∈ deadline, later < d) (hl : Procedure.Ahead later limit) :
    Limit.atStart? none deadline now = none ∧
      Procedure.Ahead later (Limit.earlier limit (Limit.ofWork none deadline depth)) := by
  have hs : ∀ t ≤ later, Limit.atStart? none deadline t = none := by
    intro t ht
    cases deadline with
    | none => rfl
    | some d =>
        have := hd d rfl
        simp [Limit.atStart?]
        omega
  exact ⟨hs now hle,
    Procedure.ahead_earlier hl (Procedure.ahead_ofWork (hs later (Nat.le_refl _)))⟩

/-- Work that keeps to a deadline runs smoothly if it is done before. -/
theorem guarded {p : Pacer} {stopped : Interruption → Failure} {job : Job α} {a : α}
    (hd : ∀ d ∈ p.deadline, later < d) (h : Smooth server job now s a later s' rs) :
    Smooth server (p.guarded stopped job.attempt) now s (.ok a) later s' rs := by
  intro limit depth seen hl
  obtain ⟨hs, hahead⟩ := ahead_of_deadline depth h.le_time hd hl
  obtain ⟨added, hr, h⟩ := h _ (depth + 1) seen hahead
  refine ⟨added, hr, ?_⟩
  change (Procedure.within p.deadline job.attempt fun o =>
    .pure (o.mapError stopped)).runWithin server none limit depth _ = _
  simp only [Procedure.runWithin, hs, h]
  rfl

/-- A pause that ends before the deadline. -/
theorem pause {p : Pacer} {stopped : Interruption → Failure}
    (hd : ∀ d ∈ p.deadline, now + p.interval < d) :
    Smooth server (p.guarded stopped (.sleep p.interval (.pure ()))) now s ()
      (now + p.interval) s [] := by
  intro limit depth seen hl
  obtain ⟨hs, hahead⟩ := ahead_of_deadline depth (Nat.le_add_right ..) hd hl
  refine ⟨[], rfl, ?_⟩
  change (Procedure.within p.deadline (.sleep p.interval (.pure ())) fun o =>
    .pure (o.mapError stopped)).runWithin server none limit depth _ = _
  simp only [Procedure.runWithin, hs, before?_of_ahead hahead]
  rfl

/-- A wait whose first poll meets its condition. -/
theorem wait {ω : Type} {p : Pacer} {stopped : ω → Interruption → Failure}
    {poll : ω → Job (Poll ω)} {n : Nat} {w : ω}
    (h : Smooth server (poll w) now s .met later s' rs) :
    Smooth server (p.wait stopped poll (n + 1) w) now s () later s' rs := by
  rw [Pacer.wait]
  exact h.bind_silent (pure ())

end Smooth

end Job

end OsdMigration
