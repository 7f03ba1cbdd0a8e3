import OsdMigration.Proofs.Course.Always

set_option autoImplicit false

/-! # Runs of jobs

A run of one job after another is a run of the first, and if that comes to a result, a run of the
second from there. What a job's courses always have, its runs have.
-/

namespace OsdMigration.Job

open Cluster (Request)

variable {σ α β : Type} {server : Server σ} {cancelAt : Option Nat} {t u v : Timeline σ}

theorem run_bind (job : Job α) (f : α → Job β) (t : Timeline σ) :
    (job >>= f).attempt.run server cancelAt t =
      Ending.andThen (job.attempt.run server cancelAt t) fun a u =>
        (next f a).run server cancelAt u := by
  rw [attempt_bind]
  exact Procedure.runWithin_bind ..

/-- After a result the second job runs. -/
theorem run_bind_of_ok {job : Job α} {f : α → Job β} {a : α}
    (h : job.attempt.run server cancelAt t = (.done (.ok a), u)) :
    (job >>= f).attempt.run server cancelAt t = (f a).attempt.run server cancelAt u := by
  rw [run_bind, h]
  rfl

/-- After a failure nothing runs. -/
theorem run_bind_of_error {job : Job α} {f : α → Job β} {e : Failure}
    (h : job.attempt.run server cancelAt t = (.done (.error e), u)) :
    (job >>= f).attempt.run server cancelAt t = (.done (.error e), u) := by
  rw [run_bind, h]
  rfl

/-- Nor does anything run after a crash. -/
theorem run_bind_of_crashed {job : Job α} {f : α → Job β} {message : String}
    (h : job.attempt.run server cancelAt t = (.crashed message, u)) :
    (job >>= f).attempt.run server cancelAt t = (.crashed message, u) := by
  rw [run_bind, h]
  rfl

/-- A wait starts if the clock reaches to its deadline, -/
theorem runWithin_start {interval : Nat} {timeout : Option Nat} {limit : Option Limit} {depth : Nat}
    (h : Clock.Reaches t.time timeout) :
    (Pacer.start interval timeout).attempt.runWithin server cancelAt limit depth t =
      (.done (.ok ⟨interval, timeout.map (t.time + ·)⟩), t) := by
  show (if _ then _ else _ : Procedure (Attempt Pacer)).runWithin server cancelAt limit depth t = _
  rw [if_pos h]
  rfl

/-- and otherwise the program crashes. -/
theorem runWithin_start_beyond {interval : Nat} {timeout : Option Nat} {limit : Option Limit}
    {depth : Nat} (h : ¬ Clock.Reaches t.time timeout) :
    (Pacer.start interval timeout).attempt.runWithin server cancelAt limit depth t =
      (.crashed Pacer.beyondClock, t) := by
  show (if _ then _ else _ : Procedure (Attempt Pacer)).runWithin server cancelAt limit depth t = _
  rw [if_neg h]
  rfl

theorem run_start {interval : Nat} {timeout : Option Nat} (h : Clock.Reaches t.time timeout) :
    (Pacer.start interval timeout).attempt.run server cancelAt t =
      (.done (.ok ⟨interval, timeout.map (t.time + ·)⟩), t) := runWithin_start h

theorem run_start_beyond {interval : Nat} {timeout : Option Nat}
    (h : ¬ Clock.Reaches t.time timeout) :
    (Pacer.start interval timeout).attempt.run server cancelAt t =
      (.crashed Pacer.beyondClock, t) := runWithin_start_beyond h

/-- A wait that has started knows its deadline, and no time has passed. -/
theorem run_start_ok {interval : Nat} {timeout : Option Nat} {p : Pacer}
    (h : (Pacer.start interval timeout).attempt.run server cancelAt t = (.done (.ok p), u)) :
    Clock.Reaches t.time timeout ∧ p = ⟨interval, timeout.map (t.time + ·)⟩ ∧ u = t := by
  by_cases hr : Clock.Reaches t.time timeout
  · rw [run_start hr] at h
    cases h
    exact ⟨hr, rfl, rfl⟩
  · rw [run_start_beyond hr] at h
    cases h

/-- A run of one job after another goes past the first, or ends where that ends. -/
theorem run_bind_cases (server : Server σ) (cancelAt : Option Nat) (job : Job α) (f : α → Job β)
    (t : Timeline σ) :
    (∃ a u, job.attempt.run server cancelAt t = (.done (.ok a), u)) ∨
      ((job >>= f).attempt.run server cancelAt t).2 = (job.attempt.run server cancelAt t).2 ∧
        ∀ b, ((job >>= f).attempt.run server cancelAt t).1 ≠ .done (.ok b) := by
  rcases h : job.attempt.run server cancelAt t with ⟨(e | a) | _ | _ | _ | _, u⟩
  · rw [run_bind_of_error h]
    exact .inr ⟨rfl, nofun⟩
  · exact .inl ⟨a, u, rfl⟩
  all_goals
    rw [run_bind, h]
    exact .inr ⟨rfl, nofun⟩

theorem run_bind_ok {job : Job α} {f : α → Job β} {b : β}
    (h : (job >>= f).attempt.run server cancelAt t = (.done (.ok b), v)) :
    ∃ a u, job.attempt.run server cancelAt t = (.done (.ok a), u) ∧
      (f a).attempt.run server cancelAt u = (.done (.ok b), v) := by
  rcases run_bind_cases server cancelAt job f t with ⟨a, u, ha⟩ | ⟨_, hn⟩
  · exact ⟨a, u, ha, run_bind_of_ok ha ▸ h⟩
  · exact absurd (congrArg Prod.fst h) (hn b)

theorem run_during (step : String) (job : Job α) (t : Timeline σ) :
    (job.during step).attempt.run server cancelAt t =
      Ending.andThen (job.attempt.run server cancelAt t) fun a u => (.done (a.during step), u) :=
  Procedure.runWithin_bind ..

theorem run_during_ok {step : String} {job : Job α} {a : α} :
    (job.during step).attempt.run server cancelAt t = (.done (.ok a), u) ↔
      job.attempt.run server cancelAt t = (.done (.ok a), u) := by
  rw [run_during]
  rcases job.attempt.run server cancelAt t with ⟨(e | a) | _ | _ | _ | _, u⟩ <;>
    simp [Ending.andThen, Attempt.during]

theorem run_during_error {step : String} {job : Job α} {e : Failure}
    (h : job.attempt.run server cancelAt t = (.done (.error e), u)) :
    (job.during step).attempt.run server cancelAt t = (.done (.error (.during step e)), u) := by
  rw [run_during, h]
  rfl

theorem run_during_crashed {step : String} {job : Job α} {message : String}
    (h : job.attempt.run server cancelAt t = (.crashed message, u)) :
    (job.during step).attempt.run server cancelAt t = (.crashed message, u) := by
  rw [run_during, h]
  rfl

theorem run_report (text : String) (t : Timeline σ) :
    (report text).attempt.run server cancelAt t =
      (.done (.ok ()), { t with seen := .told t.time (.line text) :: t.seen }) := rfl

theorem run_pure (a : α) (t : Timeline σ) :
    (pure a : Job α).attempt.run server cancelAt t = (.done (.ok a), t) := rfl

/-- Every run adds a course to what was seen before. -/
theorem course_run (server : Server σ) (cancelAt : Option Nat) (job : Job α) (t : Timeline σ) :
    ∃ seen, (job.attempt.run server cancelAt t).2.seen = seen.reverse ++ t.seen ∧
      Course job seen (job.attempt.run server cancelAt t).1.result? :=
  Procedure.course_runWithin server cancelAt job.attempt none 0 t

/-- A run that comes to a result adds a course that comes to it. -/
theorem course_run_ok {job : Job α} {a : α}
    (h : job.attempt.run server cancelAt t = (.done (.ok a), u)) :
    ∃ seen, u.seen = seen.reverse ++ t.seen ∧ Course job seen (some (.ok a)) := by
  have hc := course_run server cancelAt job t
  rw [h] at hc
  exact hc

/-- A run sends what its job sends. -/
theorem Sends.run {allowed : Request → Prop} {job : Job α} (h : Sends allowed job)
    (ht : Asking allowed t.seen) :
    Asking allowed (job.attempt.run server cancelAt t).2.seen := by
  obtain ⟨seen, hs, hc⟩ := course_run server cancelAt job t
  rw [hs]
  refine asking_append.2 ⟨fun e he => ?_, ht⟩
  exact h _ _ hc e (List.mem_reverse.1 he)

/-! ## What is left of a job -/

/-- The run of a job comes to an instant at which the rest of it is left: everything before has
ended well. -/
inductive ComesTo (server : Server σ) (cancelAt : Option Nat) (job : Job β) (start : Timeline σ) :
    Job β → Timeline σ → Prop
  | start : ComesTo server cancelAt job start job start
  | past {γ : Type} {first : Job γ} {f : γ → Job β} {a : γ} {t u : Timeline σ}
      (comes : ComesTo server cancelAt job start (first >>= f) t)
      (ended : first.attempt.run server cancelAt t = (.done (.ok a), u)) :
      ComesTo server cancelAt job start (f a) u

/-- The run goes on from there as the run of the rest. -/
theorem ComesTo.run_eq {job rest : Job β} {start : Timeline σ}
    (h : ComesTo server cancelAt job start rest t) :
    job.attempt.run server cancelAt start = rest.attempt.run server cancelAt t := by
  induction h with
  | start => rfl
  | past _ ended ih => rw [ih, run_bind_of_ok ended]

/-- What was seen before then is seen in the end. -/
theorem ComesTo.seen {job rest : Job β} {start : Timeline σ}
    (h : ComesTo server cancelAt job start rest t) :
    ∃ more, (job.attempt.run server cancelAt start).2.seen = more ++ t.seen := by
  obtain ⟨seen, hs, _⟩ := course_run server cancelAt rest t
  exact ⟨seen.reverse, h.run_eq ▸ hs⟩

/-- A run that comes to a result goes past every part that it comes to. -/
theorem ComesTo.passes {γ : Type} {job : Job β} {first : Job γ} {f : γ → Job β} {b : β}
    {start : Timeline σ} (h : ComesTo server cancelAt job start (first >>= f) t)
    (hr : job.attempt.run server cancelAt start = (.done (.ok b), v)) :
    ∃ a u, first.attempt.run server cancelAt t = (.done (.ok a), u) ∧
      ComesTo server cancelAt job start (f a) u := by
  rw [h.run_eq] at hr
  obtain ⟨a, u, ended, _⟩ := run_bind_ok hr
  exact ⟨a, u, ended, h.past ended⟩

/-- What a job comes to it comes to as well with another behind it. -/
theorem ComesTo.bind {γ : Type} {job rest : Job β} {start : Timeline σ}
    (h : ComesTo server cancelAt job start rest t) (g : β → Job γ) :
    ComesTo server cancelAt (job >>= g) start (rest >>= g) t := by
  induction h with
  | start => exact .start
  | past _ ended ih =>
      rw [bind_assoc] at ih
      exact ih.past ended

/-! ## One job for each element -/

theorem forM_append_cons (front back : List α) (x : α) (f : α → Job Unit) :
    (front ++ x :: back).forM f =
      front.forM f >>= fun _ => f x >>= fun _ => back.forM f :=
  List.forM_append

/-- Jobs for all elements come to a result only if each of them does, after those before it. -/
theorem run_forM_ok {xs front back : List α} {x : α} {f : α → Job Unit}
    (h : (xs.forM f).attempt.run server cancelAt t = (.done (.ok ()), v))
    (hx : xs = front ++ x :: back) :
    ∃ u w, (front.forM f).attempt.run server cancelAt t = (.done (.ok ()), u) ∧
      (f x).attempt.run server cancelAt u = (.done (.ok ()), w) := by
  subst hx
  rw [forM_append_cons] at h
  obtain ⟨_, u, hf, h⟩ := run_bind_ok h
  obtain ⟨_, w, hx, h⟩ := run_bind_ok h
  exact ⟨u, w, hf, hx⟩

/-- Jobs for all elements come to a result if the last of them does. -/
theorem run_forM_snoc {front : List α} {x : α} {f : α → Job Unit}
    (hf : (front.forM f).attempt.run server cancelAt t = (.done (.ok ()), u))
    (hx : (f x).attempt.run server cancelAt u = (.done (.ok ()), v)) :
    ((front ++ [x]).forM f).attempt.run server cancelAt t = (.done (.ok ()), v) := by
  rw [forM_append_cons, run_bind_of_ok hf, run_bind_of_ok hx]
  rfl

/-- The failure of one is the failure of all. -/
theorem run_forM_error {xs front back : List α} {x : α} {f : α → Job Unit} {e : Failure}
    (hxs : xs = front ++ x :: back)
    (hf : (front.forM f).attempt.run server cancelAt t = (.done (.ok ()), u))
    (hx : (f x).attempt.run server cancelAt u = (.done (.error e), v)) :
    (xs.forM f).attempt.run server cancelAt t = (.done (.error e), v) := by
  rw [hxs, forM_append_cons, run_bind_of_ok hf, run_bind_of_error hx]

end OsdMigration.Job
