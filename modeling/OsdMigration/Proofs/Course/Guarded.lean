import OsdMigration.Proofs.Course.Smooth
import OsdMigration.Proofs.Course.Times

set_option autoImplicit false

/-! # Runs of guarded work

Guarded work runs as it is while the wait it belongs to is open (`Pacer.Open`), and is cut off at
the instant at which the wait ends. What follows from that for a wait with a deadline is said of the
outcome alone (`Dated`), so that it can be said of several pieces of guarded work one after another.
-/

namespace OsdMigration

section

variable {σ α β : Type} {server : Server σ} {cancelAt : Option Nat} {t u v : Timeline σ}

/-- At an instant neither the deadline of a wait has come nor the cancellation. -/
def Pacer.Open (p : Pacer) (cancelAt : Option Nat) (now : Nat) : Prop :=
  (∀ x ∈ cancelAt, now < x) ∧ ∀ d ∈ p.deadline, now < d

variable {p : Pacer} {stopped : Interruption → Failure}

theorem Pacer.Open.atStart? {now : Nat} (h : p.Open cancelAt now) :
    Limit.atStart? cancelAt p.deadline now = none := by
  have hc : cancelAt.any (· ≤ now) = false := by
    cases cancelAt with
    | none => rfl
    | some x => simpa using h.1 x rfl
  have hd : p.deadline.any (· ≤ now) = false := by
    cases hp : p.deadline with
    | none => rfl
    | some d => simpa using h.2 d hp
  simp [Limit.atStart?, hc, hd]

/-- Guarded work runs while the wait is open. -/
theorem run_guarded_open (work : Procedure α) (h : p.Open cancelAt t.time) :
    (p.guarded stopped work).attempt.run server cancelAt t =
      Ending.andThen (Ending.caught 0 (work.runWithin server cancelAt
        (Limit.ofWork cancelAt p.deadline 0) 1 t)) fun o u =>
          (.done (o.mapError stopped), u) := by
  rw [Job.run_guarded, h.atStart?]

/-- Guarded work leaves the run where the work itself left it. -/
theorem run_guarded_open_snd (work : Procedure α) (h : p.Open cancelAt t.time) :
    ((p.guarded stopped work).attempt.run server cancelAt t).2 =
      (work.runWithin server cancelAt (Limit.ofWork cancelAt p.deadline 0) 1 t).2 := by
  rw [run_guarded_open _ h]
  exact Job.caught_timeline ..

/-- A pause that ends while the wait is open. -/
theorem run_pause {d : Nat} (h : p.Open cancelAt t.time) (hd : p.Open cancelAt (t.time + d)) :
    (p.guarded stopped (.sleep d (.pure ()))).attempt.run server cancelAt t =
      (.done (.ok ()), { t with time := t.time + d }) := by
  rw [run_guarded_open _ h]
  simp only [Procedure.runWithin,
    Job.Smooth.before?_of_ahead (Procedure.ahead_ofWork_iff.2 hd)]
  rfl

/-- A pause that does not end before the wait does takes until then. -/
theorem run_pause_error {d : Nat} {f : Failure} (h : p.Open cancelAt t.time)
    (hr : (p.guarded stopped (.sleep d (.pure ()))).attempt.run server cancelAt t =
      (.done (.error f), v)) : t.time < v.time := by
  rw [run_guarded_open _ h] at hr
  simp only [Procedure.runWithin] at hr
  split at hr
  · cases hr
  · cases hl : Limit.ofWork cancelAt p.deadline 0 with
    | none =>
        rw [hl] at hr
        cases hr
    | some l =>
        -- it is cut off at the limit, which was still ahead
        have hahead : Procedure.Ahead t.time (Limit.ofWork cancelAt p.deadline 0) :=
          Procedure.ahead_ofWork_iff.2 h
        have hdepth := Procedure.depth_ofWork hl
        rw [hl] at hr
        simp only [Ending.waiting, Ending.caught, hdepth, if_true] at hr
        cases hr
        exact hahead l hl

/-- A pause that ends has taken its time. -/
theorem run_pause_ok {d : Nat}
    (hr : (p.guarded stopped (.sleep d (.pure ()))).attempt.run server cancelAt t =
      (.done (.ok ()), v)) : v = { t with time := t.time + d } := by
  rw [Job.run_guarded] at hr
  split at hr
  · cases hr
  · simp only [Procedure.runWithin] at hr
    split at hr
    · rename_i w hw
      obtain ⟨hw, _⟩ := Procedure.ahead_before hw
      cases hw
      cases hr
      rfl
    · cases hl : Limit.ofWork cancelAt p.deadline 0 with
      | none =>
          rw [hl] at hr
          cases hr
      | some l =>
          rw [hl] at hr
          simp only [Ending.waiting, Ending.caught, Procedure.depth_ofWork hl, if_true] at hr
          cases hr

end

/-! ## Interruptions as failures -/

namespace Job

variable {σ α : Type} {server : Server σ} {cancelAt : Option Nat} {t u : Timeline σ}
  {stopped : Interruption → Failure} {q : Procedure (Except Interruption α)}

/-- The job of a procedure that may be interrupted: an interruption is a failure. -/
def heeding (stopped : Interruption → Failure) (q : Procedure (Except Interruption α)) : Job α :=
  .mk (q.bind fun o => .pure (o.mapError stopped))

theorem run_heeding (stopped : Interruption → Failure) (q : Procedure (Except Interruption α))
    (t : Timeline σ) :
    (heeding stopped q).attempt.run server cancelAt t =
      Ending.andThen (q.run server cancelAt t) fun o u => (.done (o.mapError stopped), u) :=
  Procedure.runWithin_bind ..

theorem run_heeding_of_done {o : Except Interruption α}
    (h : q.run server cancelAt t = (.done o, u)) :
    (heeding stopped q).attempt.run server cancelAt t = (.done (o.mapError stopped), u) := by
  rw [run_heeding, h]
  rfl

theorem run_heeding_ok {a : α} :
    (heeding stopped q).attempt.run server cancelAt t = (.done (.ok a), u) ↔
      q.run server cancelAt t = (.done (.ok a), u) := by
  constructor
  · intro h
    rw [run_heeding] at h
    rcases hq : q.run server cancelAt t with ⟨(i | b) | _ | _ | _ | _, v⟩ <;>
      rw [hq] at h <;> cases h
    rfl
  · exact run_heeding_of_done

end Job

/-! ## Pauses -/

section

variable {σ α : Type} {server : Server σ} {cancelAt : Option Nat} {p : Pacer} {t u : Timeline σ}

theorem run_guard (p : Pacer) (work : Procedure α) (t : Timeline σ) :
    (p.guard work).run server cancelAt t =
      match Limit.atStart? cancelAt p.deadline t.time with
      | some cause => (.done (.error cause), t)
      | none => Ending.caught 0
          (work.runWithin server cancelAt (Limit.ofWork cancelAt p.deadline 0) 1 t) := by
  show (Procedure.within p.deadline work .pure).runWithin server cancelAt none 0 t = _
  simp only [Procedure.runWithin]
  cases Limit.atStart? cancelAt p.deadline t.time with
  | some cause => rfl
  | none =>
      show Ending.andThen (Ending.caught 0 (work.runWithin server cancelAt
        (Limit.ofWork cancelAt p.deadline 0) 1 t)) (fun o u => (.done o, u)) = _
      generalize Ending.caught 0 (work.runWithin server cancelAt
        (Limit.ofWork cancelAt p.deadline 0) 1 t) = e
      obtain ⟨_ | _ | _ | _ | _, u⟩ := e <;> rfl

/-- A pause ends or is interrupted, and nothing is seen of it. -/
theorem run_tick_cases (server : Server σ) (cancelAt : Option Nat) (p : Pacer) (t : Timeline σ) :
    ∃ o u, p.tick.run server cancelAt t = (.done o, u) ∧ u.seen = t.seen := by
  show ∃ o u, (p.guard (.sleep p.interval (.pure ()))).run server cancelAt t = (.done o, u) ∧
    u.seen = t.seen
  rw [run_guard]
  split
  · exact ⟨_, _, rfl, rfl⟩
  · simp only [Procedure.runWithin]
    split
    · exact ⟨_, _, rfl, rfl⟩
    · rename_i hb
      -- a sleep that does not come to its end is cut off by a limit
      cases hl : Limit.ofWork cancelAt p.deadline 0 with
      | none =>
          rw [hl] at hb
          cases hb
      | some l =>
          refine ⟨.error l.cause, { t with time := l.time }, ?_, rfl⟩
          simp only [Ending.waiting, Ending.caught, Procedure.depth_ofWork hl, if_true]

/-- A pause that is not interrupted has taken its time. -/
theorem run_tick_ok (h : p.tick.run server cancelAt t = (.done (.ok ()), u)) :
    u = { t with time := t.time + p.interval } := by
  have hjob : (p.guarded (Interruption.failure "" none)
      (.sleep p.interval (.pure ()))).attempt.run server cancelAt t = (.done (.ok ()), u) :=
    Job.run_heeding_ok.2 h
  exact run_pause_ok hjob

/-- It is not interrupted if the wait is open when it ends. -/
theorem run_tick_open (h : p.Open cancelAt (t.time + p.interval)) :
    p.tick.run server cancelAt t =
      (.done (.ok ()), { t with time := t.time + p.interval }) := by
  have hnow : p.Open cancelAt t.time :=
    ⟨fun x hx => by have := h.1 x hx; omega, fun d hd => by have := h.2 d hd; omega⟩
  have hjob : (p.guarded (Interruption.failure "" none)
      (.sleep p.interval (.pure ()))).attempt.run server cancelAt t =
        (.done (.ok ()), { t with time := t.time + p.interval }) := run_pause hnow h
  exact Job.run_heeding_ok.1 hjob

end

/-! ## Guarded work with a deadline -/

section

variable {σ α β : Type} {server : Server σ} {cancelAt : Option Nat} {p : Pacer} {t : Timeline σ}

/-- What becomes of something that a wait with a deadline does: it ends by the deadline, and before
it unless it is interrupted. An interruption by the deadline comes at its instant, and one by the
user after the user has cancelled. -/
structure Dated (cancelAt : Option Nat) (deadline : Nat)
    (e : Ending (Except Interruption α) × Timeline σ) : Prop where
  time_le : e.2.time ≤ deadline
  answered : e.1 ≠ .stuck
  lt_of_ok : ∀ a, e.1 = .done (.ok a) → e.2.time < deadline
  lt_of_exhausted : e.1 = .exhausted → e.2.time < deadline
  lt_of_crashed : ∀ message, e.1 = .crashed message → e.2.time < deadline
  late : e.1 = .done (.error .deadline) → e.2.time = deadline
  cancelled : e.1 = .done (.error .cancelled) → ∃ x ∈ cancelAt, x ≤ e.2.time

/-- Why work is not begun: the user has cancelled, or the deadline has come. -/
theorem Limit.atStart?_some {deadline : Option Nat} {now : Nat} {cause : Interruption}
    (h : Limit.atStart? cancelAt deadline now = some cause) :
    (cause = .cancelled ∧ ∃ x ∈ cancelAt, x ≤ now) ∨
      cause = .deadline ∧ ∃ d ∈ deadline, d ≤ now := by
  unfold Limit.atStart? at h
  split at h
  · rename_i hc
    obtain ⟨x, hx, hle⟩ := (Option.any_eq_true ..).1 hc
    cases h
    exact .inl ⟨rfl, x, hx, by simpa using hle⟩
  · split at h
    · rename_i hd
      obtain ⟨d, hd, hle⟩ := (Option.any_eq_true ..).1 hd
      cases h
      exact .inr ⟨rfl, d, hd, by simpa using hle⟩
    · cases h

/-- The limit at which a piece of work is abandoned is the user's or the deadline. -/
theorem Limit.mem_ofWork {deadline : Option Nat} {depth : Nat} {l : Limit}
    (h : l ∈ Limit.ofWork cancelAt deadline depth) :
    (l.cause = .cancelled ∧ l.time ∈ cancelAt) ∨ l.cause = .deadline ∧ l.time ∈ deadline := by
  rcases Procedure.mem_earlier h with hm | ⟨hm, _⟩
  · obtain ⟨x, hx, rfl⟩ := Option.map_eq_some_iff.1 hm
    exact .inl ⟨rfl, hx⟩
  · obtain ⟨d, hd, rfl⟩ := Option.map_eq_some_iff.1 hm
    exact .inr ⟨rfl, hd⟩

/-- Work with a deadline has a limit, which is not behind the deadline. -/
theorem Limit.exists_mem_ofWork (cancelAt : Option Nat) (deadline depth : Nat) :
    ∃ l ∈ Limit.ofWork cancelAt (some deadline) depth, l.time ≤ deadline := by
  unfold Limit.ofWork
  cases cancelAt with
  | none => exact ⟨⟨deadline, .deadline, depth⟩, rfl, Nat.le_refl _⟩
  | some x =>
      simp only [Option.map_some, Limit.earlier]
      split
      · exact ⟨_, rfl, Nat.le_refl _⟩
      · rename_i h
        exact ⟨_, rfl, Nat.le_of_not_lt h⟩

theorem dated_guard {deadline : Nat} (hp : p.deadline = some deadline) (work : Procedure α)
    (ht : t.time ≤ deadline) : Dated cancelAt deadline ((p.guard work).run server cancelAt t) := by
  rw [run_guard, hp]
  cases hs : Limit.atStart? cancelAt (some deadline) t.time with
  | some cause =>
      -- it is not begun
      rcases Limit.atStart?_some hs with ⟨rfl, x, hx, hle⟩ | ⟨rfl, d, hd, hle⟩
      · exact ⟨ht, nofun, nofun, nofun, nofun, nofun, fun _ => ⟨x, hx, hle⟩⟩
      · cases hd
        exact ⟨ht, nofun, nofun, nofun, nofun, fun _ => Nat.le_antisymm ht hle, nofun⟩
  | none =>
      have hahead : Procedure.Ahead t.time (Limit.ofWork cancelAt (some deadline) 0) :=
        Procedure.ahead_ofWork hs
      have hdepth : ∀ l ∈ Limit.ofWork cancelAt (some deadline) 0, l.depth < 1 := fun l hl =>
        Procedure.depth_ofWork hl ▸ Nat.one_pos
      have htime := Procedure.inTime_runWithin server cancelAt work _ 1 t hahead hdepth
      have hlimited := Procedure.limited_runWithin server cancelAt work _ 1 t hahead hdepth
      obtain ⟨l, hl, hle⟩ := Limit.exists_mem_ofWork cancelAt deadline 0
      simp only
      generalize work.runWithin server cancelAt (Limit.ofWork cancelAt (some deadline) 0) 1 t = e
        at htime hlimited
      obtain ⟨b | ⟨cause, d⟩ | _ | _ | message, u⟩ := e
      · have hlt : u.time < deadline := Nat.lt_of_lt_of_le (htime.ahead b rfl l hl) hle
        exact ⟨Nat.le_of_lt hlt, nofun, fun _ _ => hlt, nofun, nofun, nofun, nofun⟩
      · have hat := htime.atLimit cause d rfl
        obtain rfl : d = 0 := Procedure.depth_ofWork hat
        have hend : u.time ≤ deadline := Nat.le_trans (htime.time_le l hl) hle
        rcases Limit.mem_ofWork hat with ⟨rfl, hx⟩ | ⟨rfl, hd⟩
        · exact ⟨hend, nofun, nofun, nofun, nofun, nofun, fun _ => ⟨u.time, hx, Nat.le_refl _⟩⟩
        · exact ⟨hend, nofun, nofun, nofun, nofun, fun _ => (Option.some.inj hd).symm, nofun⟩
      · rw [hlimited.limit_of_stuck rfl] at hl
        cases hl
      · have hlt : u.time < deadline :=
          Nat.lt_of_lt_of_le (hlimited.ahead_of_exhausted rfl l hl) hle
        exact ⟨Nat.le_of_lt hlt, nofun, nofun, fun _ => hlt, nofun, nofun, nofun⟩
      · have hlt : u.time < deadline :=
          Nat.lt_of_lt_of_le (hlimited.ahead_of_crashed message rfl l hl) hle
        exact ⟨Nat.le_of_lt hlt, nofun, nofun, nofun, fun _ _ => hlt, nofun, nofun⟩

theorem dated_ok {deadline : Nat} (a : α) (ht : t.time < deadline) :
    Dated cancelAt deadline (.done (.ok a), t) :=
  ⟨Nat.le_of_lt ht, nofun, fun _ _ => ht, nofun, nofun, nofun, nofun⟩

/-- More work may follow on work that came to its result. -/
theorem dated_bind {deadline : Nat} {q : Procedure (Except Interruption α)}
    {next : Except Interruption α → Procedure (Except Interruption β)}
    (hq : Dated cancelAt deadline (q.run server cancelAt t))
    (herror : ∀ i, next (.error i) = .pure (.error i))
    (hok : ∀ a (u : Timeline σ), u.time < deadline →
      Dated cancelAt deadline ((next (.ok a)).run server cancelAt u)) :
    Dated cancelAt deadline ((q.bind next).run server cancelAt t) := by
  have hbind : (q.bind next).run server cancelAt t =
      Ending.andThen (q.run server cancelAt t) fun o u => (next o).run server cancelAt u :=
    Procedure.runWithin_bind ..
  rw [hbind]
  generalize q.run server cancelAt t = e at hq
  obtain ⟨(i | a) | _ | _ | _ | message, u⟩ := e
  · -- an interruption is passed on
    show Dated cancelAt deadline ((next (.error i)).run server cancelAt u)
    rw [herror]
    refine ⟨hq.time_le, nofun, nofun, nofun, nofun, fun h => hq.late ?_, fun h => hq.cancelled ?_⟩
    all_goals
      cases h
      rfl
  · exact hok a u (hq.lt_of_ok a rfl)
  · exact ⟨hq.time_le, nofun, nofun, nofun, nofun, nofun, nofun⟩
  · exact absurd rfl hq.answered
  · exact ⟨hq.time_le, nofun, nofun, fun _ => hq.lt_of_exhausted rfl, nofun, nofun, nofun⟩
  · exact ⟨hq.time_le, nofun, nofun, nofun, fun _ _ => hq.lt_of_crashed message rfl, nofun, nofun⟩

end

end OsdMigration
