import OsdMigration.Proofs.Course.Job

set_option autoImplicit false

/-! # What holds of all courses

A property of lists of events that survives putting lists together (`Joining`) holds of all courses
of a job as soon as it holds of all courses of its parts. Most such properties are indifferent to
messages (`Cumulative`). The plainest one is that only certain requests occur (`Asking`).
-/

namespace OsdMigration

open Cluster (Request)

/-- The request that an event belongs to. -/
def Event.request? : Event → Option Request
  | .called _ r | .answered _ r _ => some r
  | .told .. => none

/-- A property that holds of lists of events put together if it holds of both. -/
structure Joining (P : List Event → Prop) : Prop where
  nil : P []
  append : ∀ {a b : List Event}, P a → P b → P (a ++ b)

/-- One that also holds of all messages. -/
structure Cumulative (P : List Event → Prop) : Prop extends Joining P where
  told : ∀ t m, P [.told t m]

/-- Only certain requests occur. -/
def Asking (allowed : Request → Prop) (seen : List Event) : Prop :=
  ∀ e ∈ seen, ∀ r ∈ e.request?, allowed r

theorem cumulative_asking (allowed : Request → Prop) : Cumulative (Asking allowed) where
  nil := fun e he => absurd he List.not_mem_nil
  told := by
    intro t m e he r hr
    rw [List.mem_singleton.1 he] at hr
    cases hr
  append := by
    intro a b ha hb e he
    rcases List.mem_append.1 he with h | h
    · exact ha e h
    · exact hb e h

theorem Asking.mono {allowed permitted : Request → Prop} {seen : List Event}
    (h : Asking allowed seen) (hp : ∀ r, allowed r → permitted r) : Asking permitted seen :=
  fun e he r hr => hp r (h e he r hr)

theorem Asking.called {allowed : Request → Prop} {seen : List Event} (h : Asking allowed seen)
    {t : Nat} {r : Request} (hm : .called t r ∈ seen) : allowed r := h _ hm r rfl

theorem asking_append {allowed : Request → Prop} {a b : List Event} :
    Asking allowed (a ++ b) ↔ Asking allowed a ∧ Asking allowed b := by
  constructor
  · intro h
    exact ⟨fun e he => h e (List.mem_append_left _ he),
      fun e he => h e (List.mem_append_right _ he)⟩
  · rintro ⟨ha, hb⟩
    exact (cumulative_asking allowed).append ha hb

namespace Job

variable {α β : Type} {P Q : List Event → Prop}

/-- All courses of a job have a property. -/
def Always (P : List Event → Prop) (job : Job α) : Prop := ∀ seen o, Course job seen o → P seen

theorem Always.mono {job : Job α} (h : Always P job) (hQ : ∀ seen, P seen → Q seen) :
    Always Q job := fun seen o hc => hQ seen (h seen o hc)

end Job

namespace Joining

open Job (Always Course)

variable {α β : Type} {P : List Event → Prop}

theorem bind (hP : Joining P) {job : Job α} {f : α → Job β} (hj : Always P job)
    (hf : ∀ a, Always P (f a)) : Always P (job >>= f) := by
  intro seen o h
  rcases (Job.course_bind ..).1 h with ⟨a, first, rest, rfl, h, hn⟩ | ⟨e, h, _⟩ | ⟨h, _⟩
  · exact hP.append (hj _ _ h) (hf a _ _ hn)
  · exact hj _ _ h
  · exact hj _ _ h

theorem ofAttempt (hP : Joining P) (a : Attempt α) : Always P (Job.ofAttempt a) := by
  rintro seen o ⟨rfl, _⟩
  exact hP.nil

theorem fail (hP : Joining P) (f : Failure) : Always P (Job.fail f : Job α) :=
  hP.ofAttempt _

theorem pure (hP : Joining P) (a : α) : Always P (Pure.pure a : Job α) :=
  hP.ofAttempt (.ok a)

theorem guarded (hP : Joining P) (p : Pacer) (stopped : Interruption → Failure)
    {work : Procedure α} (hw : ∀ seen o, work.Course seen o → P seen) :
    Always P (p.guarded stopped work) := by
  intro seen o h
  rcases (Job.course_guarded ..).1 h with ⟨_, rfl, _⟩ | ⟨_, h, _⟩ | ⟨_, h, _⟩ | ⟨h, _⟩
  · exact hP.nil
  · exact hw _ _ h
  · exact hw _ _ h
  · exact hw _ _ h

theorem start (hP : Joining P) (interval : Nat) (timeout : Option Nat) :
    Always P (Pacer.start interval timeout) := by
  intro seen o h
  rw [((Job.course_start ..).1 h).1]
  exact hP.nil

/-- A wait has a property as soon as its polls have it, and what it tells in passing. -/
theorem wait (hP : Joining P) {ω : Type} (p : Pacer) (stopped : ω → Interruption → Failure)
    {poll : ω → Job (Poll ω)} (hp : ∀ w, Always P (poll w))
    (htell : ∀ w seen w' text, Course (poll w) seen (some (.ok (.again w' (some text)))) →
      Always P (Job.tell (.passing text))) (n : Nat) (w : ω) :
    Always P (p.wait stopped poll n w) := by
  -- on the polls that are left
  induction n generalizing w with
  | zero =>
      rintro seen o ⟨rfl, _⟩
      exact hP.nil
  | succ n ih =>
      intro seen o h
      rcases (Job.course_bind ..).1 h with ⟨outcome, first, rest, rfl, h, hn⟩ | ⟨e, h, _⟩ | ⟨h, _⟩
      · refine hP.append (hp w _ _ h) ?_
        cases outcome with
        | met => exact hP.pure () _ _ hn
        | again w' passing =>
            refine hP.bind ?_ (fun _ => hP.bind (hP.guarded p _ ?_) fun _ => ih w') _ _ hn
            · cases passing with
              | none => exact hP.pure ()
              | some text => exact htell w _ w' text h
            · rintro seen o (⟨rfl, _⟩ | ⟨rfl, _⟩) <;> exact hP.nil
      · exact hp w _ _ h
      · exact hp w _ _ h

theorem forM (hP : Joining P) (xs : List α) {f : α → Job Unit} (hf : ∀ x ∈ xs, Always P (f x)) :
    Always P (xs.forM f) := by
  induction xs with
  | nil => exact hP.pure ()
  | cons x xs ih =>
      refine hP.bind (hf x List.mem_cons_self) fun _ => ih fun y hy => ?_
      exact hf y (List.mem_cons_of_mem _ hy)

end Joining

namespace Cumulative

open Job (Always Course)

variable {α β : Type} {P : List Event → Prop}

theorem tell (hP : Cumulative P) (m : Message) : Always P (Job.tell m) := by
  intro seen o h
  obtain ⟨⟨t, rfl⟩, _⟩ := (Job.course_tell ..).1 h
  exact hP.told t m

theorem report (hP : Cumulative P) (text : String) : Always P (Job.report text) := hP.tell _

theorem during (step : String) {job : Job α} (hj : Always P job) :
    Always P (job.during step) := by
  intro seen o h
  obtain ⟨o', h, _⟩ := (Job.course_during ..).1 h
  exact hj _ _ h

/-- A wait has a property as soon as its polls have it. -/
theorem wait (hP : Cumulative P) {ω : Type} (p : Pacer) (stopped : ω → Interruption → Failure)
    {poll : ω → Job (Poll ω)} (hp : ∀ w, Always P (poll w)) (n : Nat) (w : ω) :
    Always P (p.wait stopped poll n w) :=
  hP.toJoining.wait p stopped hp (fun _ _ _ _ _ => hP.tell _) n w

end Cumulative

/-! ## Requests -/

namespace Job

variable {α : Type} {allowed permitted : Request → Prop}

/-- A job sends certain requests only. -/
abbrev Sends (allowed : Request → Prop) (job : Job α) : Prop := Always (Asking allowed) job

theorem Sends.mono {job : Job α} (h : Sends allowed job) (hp : ∀ r, allowed r → permitted r) :
    Sends permitted job := Always.mono h fun _ hs => hs.mono hp

theorem asking_call {r : Request} (hr : allowed r) {seen : List Event}
    (h : ∀ e ∈ seen, ∀ r' ∈ e.request?, r' = r) : Asking allowed seen :=
  fun e he r' hr' => h e he r' hr' ▸ hr

theorem sends_ask {r : Request} (hr : allowed r) : Sends allowed (ask r) := by
  intro seen o h
  apply asking_call hr
  rcases (course_ask ..).1 h with ⟨t, rfl, _⟩ | ⟨t, u, a, rfl, _⟩ <;>
    simp [Event.request?]

end Job

end OsdMigration
