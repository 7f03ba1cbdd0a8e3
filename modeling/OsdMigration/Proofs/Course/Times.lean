import OsdMigration.Proofs.Course.Invariant
import OsdMigration.Proofs.Course.Runs

set_option autoImplicit false

/-! # When things happen in a run

Courses say nothing about time. What a run adds to them is that nothing it saw lies ahead of its
clock (`past_run`), that the clock does not go back, and that guarded work comes to a result only
before its deadline and before the user cancels (`run_guarded_ok`). A job that ends in such a way
ends before that instant (`EndsBefore`).
-/

namespace OsdMigration

/-- The instant of an event. -/
def Event.time : Event → Nat
  | .called t _ | .answered t _ _ | .told t _ => t

variable {σ : Type}

/-- Nothing that was seen lies ahead. -/
def Timeline.Past (t : Timeline σ) : Prop := ∀ e ∈ t.seen, e.time ≤ t.time

theorem Timeline.Past.mono {t u : Timeline σ} (h : t.Past) (hs : u.seen = t.seen)
    (hle : t.time ≤ u.time) : u.Past :=
  fun e he => Nat.le_trans (h e (hs ▸ he)) hle

theorem Timeline.Past.cons {t u : Timeline σ} {e : Event} (h : t.Past) (hs : u.seen = e :: t.seen)
    (hle : t.time ≤ u.time) (he : e.time ≤ u.time) : u.Past := by
  intro e' he'
  rw [hs] at he'
  rcases List.mem_cons.1 he' with rfl | he'
  · exact he
  · exact Nat.le_trans (h e' he') hle

namespace Procedure

/-- Whatever is seen is seen at the present time. -/
theorem preserves_past (server : Server σ) : server.Preserves Timeline.Past where
  told h := h.cons rfl (Nat.le_refl _) (Nat.le_refl _)
  passed h hle := h.mono rfl hle
  received h := h.cons rfl (Nat.le_refl _) (Nat.le_refl _)
  answered h _ := h.cons rfl (Nat.le_refl _) (Nat.le_refl _)
  hung h _ := h.mono rfl (Nat.le_refl _)

/-- Nothing that a run saw lies ahead. -/
theorem past_run (server : Server σ) (cancelAt : Option Nat) {α : Type} (p : Procedure α)
    {t : Timeline σ} (h : t.Past) : (p.run server cancelAt t).2.Past :=
  (preserves_past server).run cancelAt p h

/-- The clock does not go back. -/
theorem le_time_run (server : Server σ) (cancelAt : Option Nat) {α : Type} (p : Procedure α)
    (t : Timeline σ) : t.time ≤ (p.run server cancelAt t).2.time :=
  (inTime_runWithin server cancelAt p none 0 t nofun nofun).le_time

/-- What else holds of a run that began before its limit: it does not get stuck, and if its polls
run out or it crashes, it does so before the limit. -/
structure Limited {α : Type} (limit : Option Limit) (e : Ending α × Timeline σ) : Prop where
  limit_of_stuck : e.1 = .stuck → limit = none
  ahead_of_exhausted : e.1 = .exhausted → Ahead e.2.time limit
  ahead_of_crashed : ∀ message, e.1 = .crashed message → Ahead e.2.time limit

/-- Polls do not run out in a wait for something that does not come. -/
theorem waiting_ne_exhausted {α : Type} (limit : Option Limit) (t : Timeline σ) :
    (Ending.waiting limit t : Ending α × Timeline σ).1 ≠ .exhausted := by
  cases limit <;> nofun

/-- Nor does it crash. -/
theorem waiting_ne_crashed {α : Type} (limit : Option Limit) (t : Timeline σ) (message : String) :
    (Ending.waiting limit t : Ending α × Timeline σ).1 ≠ .crashed message := by
  cases limit <;> nofun

theorem limited_waiting {α : Type} (limit : Option Limit) (t : Timeline σ) :
    Limited limit (Ending.waiting limit t : Ending α × Timeline σ) where
  limit_of_stuck := by
    cases limit with
    | none => exact fun _ => rfl
    | some l => exact nofun
  ahead_of_exhausted h := absurd h (waiting_ne_exhausted limit t)
  ahead_of_crashed message h := absurd h (waiting_ne_crashed limit t message)

/-- The work of a run that is limited by an inner limit is limited by the outer one. -/
theorem Limited.caught {β : Type} {limit inner : Option Limit} {e : Ending β × Timeline σ}
    (h : Limited (Limit.earlier limit inner) e) (depth : Nat) :
    Limited limit (Ending.caught depth e) := by
  -- the inner limit is not behind the outer one
  have houter : Ahead e.2.time (Limit.earlier limit inner) → Ahead e.2.time limit := by
    intro ha l hl
    obtain ⟨b, hb, hle⟩ := exists_mem_earlier (m := inner) hl
    exact Nat.lt_of_lt_of_le (ha b hb) hle
  refine ⟨fun hs => ?_, fun he => ?_, fun message hm => ?_⟩
  · have hnone := h.limit_of_stuck (Ending.stuck_of_caught hs)
    cases limit with
    | none => rfl
    | some l =>
        obtain ⟨b, hb, _⟩ := exists_mem_earlier (m := inner) (show l ∈ some l from rfl)
        rw [hnone] at hb
        cases hb
  · rw [Ending.caught_snd]
    exact houter (h.ahead_of_exhausted (Ending.exhausted_of_caught he))
  · rw [Ending.caught_snd]
    exact houter (h.ahead_of_crashed message (Ending.crashed_of_caught hm))

/-- Every run that begins before its limit is limited by it. -/
theorem limited_runWithin (server : Server σ) (cancelAt : Option Nat) {α : Type} (p : Procedure α)
    (limit : Option Limit) (depth : Nat) (t : Timeline σ) (h : Ahead t.time limit)
    (hd : ∀ l ∈ limit, l.depth < depth) :
    Limited limit (p.runWithin server cancelAt limit depth t) := by
  induction p generalizing limit depth t with
  | pure a => exact ⟨by simp [runWithin], by simp [runWithin], by simp [runWithin]⟩
  | exhausted => exact ⟨by simp [runWithin], fun _ => h, by simp [runWithin]⟩
  | crash message => exact ⟨by simp [runWithin], by simp [runWithin], fun _ _ => h⟩
  | tell m next ih => exact ih limit depth { t with seen := .told t.time m :: t.seen } h hd
  | clock next ih => exact ih t.time limit depth t h hd
  | sleep d next ih =>
      simp only [runWithin]
      split
      · rename_i u hu
        exact ih limit depth { t with time := u } (ahead_before hu).2 hd
      · exact limited_waiting ..
  | call r next ih =>
      simp only [runWithin]
      split
      · exact limited_waiting ..
      · rename_i u hu
        split
        · exact ih _ limit depth ⟨u, _, _⟩ (ahead_before hu).2 hd
        · exact limited_waiting ..
  | within deadline work next ihw ih =>
      simp only [runWithin]
      split
      · exact ih _ limit depth t h hd
      · rename_i hs
        obtain ⟨hinner, hdepth⟩ := inner_limit h hd hs
        have hw := (ihw _ (depth + 1) t hinner hdepth).caught depth
        -- what follows the work needs its limit ahead, which is a fact about times
        have ht := (inTime_runWithin server cancelAt work _ (depth + 1) t hinner hdepth).caught hd
        generalize Ending.caught depth (work.runWithin server cancelAt
          (Limit.earlier limit (Limit.ofWork cancelAt deadline depth)) (depth + 1) t) = e at hw ht
        obtain ⟨o | _ | _ | _ | message, u⟩ := e
        · exact ih o limit depth u (ht.ahead o rfl) hd
        · exact ⟨by rintro ⟨⟩, by rintro ⟨⟩, by rintro _ ⟨⟩⟩
        · exact ⟨fun _ => hw.limit_of_stuck rfl, by rintro ⟨⟩, by rintro _ ⟨⟩⟩
        · exact ⟨by rintro ⟨⟩, fun _ => hw.ahead_of_exhausted rfl, by rintro _ ⟨⟩⟩
        · exact ⟨by rintro ⟨⟩, by rintro ⟨⟩, fun _ _ => hw.ahead_of_crashed message rfl⟩

/-- What is before the limits of a piece of work is before each of them. -/
theorem ahead_ofWork_iff {cancelAt deadline : Option Nat} {now depth : Nat} :
    Ahead now (Limit.ofWork cancelAt deadline depth) ↔
      (∀ u ∈ cancelAt, now < u) ∧ ∀ d ∈ deadline, now < d := by
  cases cancelAt <;> cases deadline <;>
    simp only [Ahead, Limit.ofWork, Limit.earlier, Option.map_none, Option.map_some,
      Option.mem_def, reduceCtorEq, false_implies, implies_true, Option.some.injEq,
      forall_eq', and_true, true_and]
  split
  · simp only [Option.some.injEq, forall_eq']
    omega
  · simp only [Option.some.injEq, forall_eq']
    omega

end Procedure

namespace Job

variable {α β : Type} {server : Server σ} {cancelAt : Option Nat} {t u : Timeline σ}

/-- What becomes of guarded work leaves the timeline as the work left it. -/
theorem caught_timeline (depth : Nat) (e : Ending α × Timeline σ)
    (f : Except Interruption α → β) :
    (Ending.andThen (Ending.caught depth e) fun o u => (.done (f o), u)).2 = e.2 := by
  obtain ⟨a | ⟨cause, d⟩ | _ | _ | _, u⟩ := e
  case abandoned =>
    simp only [Ending.caught]
    split <;> rfl
  all_goals rfl

/-- Guarded work runs unless it is too late for it, and is caught if it is abandoned. -/
theorem run_guarded (p : Pacer) (stopped : Interruption → Failure) (work : Procedure α)
    (t : Timeline σ) :
    (p.guarded stopped work).attempt.run server cancelAt t =
      match Limit.atStart? cancelAt p.deadline t.time with
      | some cause => (.done (.error (stopped cause)), t)
      | none => Ending.andThen (Ending.caught 0 (work.runWithin server cancelAt
          (Limit.ofWork cancelAt p.deadline 0) 1 t)) fun o u => (.done (o.mapError stopped), u) := by
  change (Procedure.within p.deadline work fun o =>
    .pure (o.mapError stopped)).runWithin server cancelAt none 0 t = _
  simp only [Procedure.runWithin]
  cases Limit.atStart? cancelAt p.deadline t.time with
  | none => rfl
  | some cause => rfl

/-- Guarded work comes to a result only before the user cancels and before the deadline. -/
theorem run_guarded_ok {p : Pacer} {stopped : Interruption → Failure} {work : Procedure α} {a : α}
    (h : (p.guarded stopped work).attempt.run server cancelAt t = (.done (.ok a), u)) :
    (∀ c ∈ cancelAt, u.time < c) ∧ ∀ d ∈ p.deadline, u.time < d := by
  rw [run_guarded] at h
  split at h
  · cases h
  · rename_i hs
    have hw := Procedure.inTime_runWithin server cancelAt work _ 1 t
      (@Procedure.ahead_ofWork cancelAt p.deadline t.time 0 hs)
      fun l hl => Procedure.depth_ofWork hl ▸ Nat.one_pos
    generalize work.runWithin server cancelAt (Limit.ofWork cancelAt p.deadline 0) 1 t = e
      at h hw
    obtain ⟨b | ⟨cause, d⟩ | _ | _ | _, v⟩ := e
    · have hahead := hw.ahead b rfl
      cases h
      exact Procedure.ahead_ofWork_iff.1 hahead
    · simp only [Ending.caught] at h
      split at h <;> cases h
    all_goals cases h

/-! ## Jobs that end before an instant -/

/-- A job takes no time. -/
def Instant (server : Server σ) (cancelAt : Option Nat) (job : Job α) : Prop :=
  ∀ t, (job.attempt.run server cancelAt t).2.time = t.time

theorem instant_pure (a : α) : Instant server cancelAt (pure a : Job α) := fun _ => rfl

theorem instant_ofAttempt (a : Attempt α) : Instant server cancelAt (ofAttempt a) := fun _ => rfl

theorem Instant.bind {job : Job α} {f : α → Job β} (hj : Instant server cancelAt job)
    (hf : ∀ a, Instant server cancelAt (f a)) : Instant server cancelAt (job >>= f) := by
  intro t
  rcases h : job.attempt.run server cancelAt t with ⟨(e | a) | _ | _ | _ | _, u⟩ <;>
    have hu : u.time = t.time := by simpa [h] using hj t
  · rw [run_bind_of_error h]
    exact hu
  · rw [run_bind_of_ok h, hf a u, hu]
  all_goals
    rw [run_bind, h]
    exact hu

/-- A job comes to a result only before an instant. -/
def EndsBefore (server : Server σ) (cancelAt : Option Nat) (instant : Nat) (job : Job α) : Prop :=
  ∀ t a u, job.attempt.run server cancelAt t = (.done (.ok a), u) → u.time < instant

namespace EndsBefore

variable {instant : Nat}

theorem bind {job : Job α} {f : α → Job β}
    (hf : ∀ a, EndsBefore server cancelAt instant (f a)) :
    EndsBefore server cancelAt instant (job >>= f) := by
  intro t b v h
  obtain ⟨a, u, _, h⟩ := run_bind_ok h
  exact hf a u b v h

/-- What takes no time may follow, and what ends before the instant itself. -/
theorem bind_of {job : Job α} {f : α → Job β} (hj : EndsBefore server cancelAt instant job)
    (hf : ∀ a, Instant server cancelAt (f a) ∨ EndsBefore server cancelAt instant (f a)) :
    EndsBefore server cancelAt instant (job >>= f) := by
  intro t b v h
  obtain ⟨a, u, ha, h⟩ := run_bind_ok h
  rcases hf a with hi | he
  · have hv : v.time = u.time := by simpa [h] using hi u
    rw [hv]
    exact hj t a u ha
  · exact he u b v h

theorem bind_instant {job : Job α} {f : α → Job β} (hj : EndsBefore server cancelAt instant job)
    (hf : ∀ a, Instant server cancelAt (f a)) :
    EndsBefore server cancelAt instant (job >>= f) := hj.bind_of fun a => .inl (hf a)

theorem during (step : String) {job : Job α} (hj : EndsBefore server cancelAt instant job) :
    EndsBefore server cancelAt instant (job.during step) :=
  fun t a u h => hj t a u (run_during_ok.1 h)

theorem guarded_cancel (p : Pacer) (stopped : Interruption → Failure) (work : Procedure α)
    (hc : instant ∈ cancelAt) : EndsBefore server cancelAt instant (p.guarded stopped work) :=
  fun _ _ _ h => (run_guarded_ok h).1 instant hc

theorem guarded_deadline {p : Pacer} (stopped : Interruption → Failure) (work : Procedure α)
    (hd : instant ∈ p.deadline) : EndsBefore server cancelAt instant (p.guarded stopped work) :=
  fun _ _ _ h => (run_guarded_ok h).2 instant hd

/-- A wait ends with the end of a poll. -/
theorem wait {ω : Type} (p : Pacer) (stopped : ω → Interruption → Failure)
    {poll : ω → Job (Poll ω)} (hp : ∀ w, EndsBefore server cancelAt instant (poll w)) (n : Nat)
    (w : ω) : EndsBefore server cancelAt instant (p.wait stopped poll n w) := by
  induction n generalizing w with
  | zero =>
      intro t a u h
      cases h
  | succ n ih =>
      intro t a v h
      obtain ⟨outcome, u, ho, h⟩ := run_bind_ok h
      cases outcome with
      | met =>
          cases h
          exact hp w t _ _ ho
      | again w' passing =>
          obtain ⟨_, _, _, h⟩ := run_bind_ok h
          obtain ⟨_, _, _, h⟩ := run_bind_ok h
          exact ih w' _ _ _ h

end EndsBefore

end Job

end OsdMigration
