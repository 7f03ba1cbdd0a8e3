import OsdMigration.Proofs.Course.Basic
import OsdMigration.Wait.Pacer

set_option autoImplicit false

/-! # Courses of jobs

A job comes to a result, to a failure, or to nothing at all. For every way in which jobs are put
together there is an equation for all courses, and one for the courses that come to a result
(`_ok`). The second kind takes the successful courses of a job apart, one part after another.
-/

namespace OsdMigration.Job

open Cluster (Request)

variable {α β : Type}

/-- The courses of a job. -/
def Course (job : Job α) (seen : List Event) (o : Option (Attempt α)) : Prop :=
  job.attempt.Course seen o

/-! ## One job after another -/

/-- How a job goes on after a result or a failure. -/
def next (f : α → Job β) : Attempt α → Procedure (Attempt β)
  | .ok a => (f a).attempt
  | .error e => .pure (.error e)

/-- One job after another, as procedures. -/
theorem attempt_bind (job : Job α) (f : α → Job β) :
    (job >>= f).attempt = job.attempt.bind (next f) := by
  change job.attempt.bind _ = job.attempt.bind _
  congr 1
  funext a
  cases a <;> rfl

/-- A course of one job after another: the first comes to a result and the second goes on, or the
first fails, or it comes to nothing. -/
theorem course_bind (job : Job α) (f : α → Job β) (seen : List Event) (o : Option (Attempt β)) :
    Course (job >>= f) seen o ↔
      (∃ a first rest, seen = first ++ rest ∧ Course job first (some (.ok a)) ∧
        Course (f a) rest o) ∨
      (∃ e, Course job seen (some (.error e)) ∧ o = some (.error e)) ∨
      Course job seen none ∧ o = none := by
  rw [Course, attempt_bind, Procedure.course_bind]
  constructor
  · rintro (⟨a | a, first, rest, rfl, hj, hf⟩ | ⟨hj, ho⟩)
    · obtain ⟨rfl, ho⟩ := hf
      exact .inr (.inl ⟨a, by rwa [List.append_nil], ho⟩)
    · exact .inl ⟨a, first, rest, rfl, hj, hf⟩
    · exact .inr (.inr ⟨hj, ho⟩)
  · rintro (⟨a, first, rest, rfl, hj, hf⟩ | ⟨e, hj, ho⟩ | ⟨hj, ho⟩)
    · exact .inl ⟨.ok a, first, rest, rfl, hj, hf⟩
    · exact .inl ⟨.error e, seen, [], by simp, hj, rfl, ho⟩
    · exact .inr ⟨hj, ho⟩

@[simp] theorem course_bind_ok (job : Job α) (f : α → Job β) (seen : List Event) (b : β) :
    Course (job >>= f) seen (some (.ok b)) ↔
      ∃ a first rest, seen = first ++ rest ∧ Course job first (some (.ok a)) ∧
        Course (f a) rest (some (.ok b)) := by
  simp [course_bind]

/-- Judging a result adds nothing to what is seen. -/
theorem course_of_judged {job : Job α} {judge : α → Attempt β} {seen : List Event}
    {o : Option (Attempt β)} (h : Course (job >>= fun a => ofAttempt (judge a)) seen o) :
    ∃ o', Course job seen o' := by
  rcases (course_bind ..).1 h with ⟨a, first, _, rfl, hj, rfl, _⟩ | ⟨e, hj, _⟩ | ⟨hj, _⟩
  · rw [List.append_nil]
    exact ⟨_, hj⟩
  · exact ⟨_, hj⟩
  · exact ⟨_, hj⟩

/-! ## Requests and messages -/

theorem course_ask (r : Request) (seen : List Event) (o : Option (Attempt r.Reply)) :
    Course (ask r) seen o ↔ (∃ t, seen = [.called t r] ∧ o = none) ∨
      ∃ t u a, seen = [.called t r, .answered u r a] ∧ o = some a := by
  constructor
  · rintro (⟨t, rfl, ho⟩ | ⟨t, u, a, _, rfl, rfl, ho⟩)
    · exact .inl ⟨t, rfl, ho⟩
    · exact .inr ⟨t, u, a, rfl, ho⟩
  · rintro (⟨t, rfl, ho⟩ | ⟨t, u, a, rfl, ho⟩)
    · exact .inl ⟨t, rfl, ho⟩
    · exact .inr ⟨t, u, a, [], rfl, rfl, ho⟩

@[simp] theorem course_ask_ok (r : Request) (seen : List Event) (a : r.Reply) :
    Course (ask r) seen (some (.ok a)) ↔
      ∃ t u, seen = [.called t r, .answered u r (.ok a)] := by
  simp only [course_ask, reduceCtorEq, and_false, exists_false, false_or, Option.some.injEq]
  constructor
  · rintro ⟨t, u, _, rfl, rfl⟩
    exact ⟨t, u, rfl⟩
  · rintro ⟨t, u, rfl⟩
    exact ⟨t, u, .ok a, rfl, rfl⟩

@[simp] theorem course_tell (m : Message) (seen : List Event) (o : Option (Attempt Unit)) :
    Course (tell m) seen o ↔ (∃ t, seen = [.told t m]) ∧ o = some (.ok ()) := by
  constructor
  · rintro ⟨t, _, rfl, rfl, ho⟩
    exact ⟨⟨t, rfl⟩, ho⟩
  · rintro ⟨⟨t, rfl⟩, ho⟩
    exact ⟨t, [], rfl, rfl, ho⟩

@[simp] theorem course_report (text : String) (seen : List Event) (o : Option (Attempt Unit)) :
    Course (report text) seen o ↔ (∃ t, seen = [.told t (.line text)]) ∧ o = some (.ok ()) :=
  course_tell ..

/-! ## Annotations and limits -/

/-- A procedure whose result is changed at the end has the same courses but for the result. -/
theorem course_map (p : Procedure α) (f : α → β) (seen : List Event) (o : Option β) :
    (p.bind fun a => .pure (f a)).Course seen o ↔ ∃ o', p.Course seen o' ∧ o = o'.map f := by
  rw [Procedure.course_bind]
  constructor
  · rintro (⟨a, first, _, rfl, hp, rfl, rfl⟩ | ⟨hp, rfl⟩)
    · exact ⟨some a, by simpa using hp, rfl⟩
    · exact ⟨none, hp, rfl⟩
  · rintro ⟨_ | a, hp, rfl⟩
    · exact .inr ⟨hp, rfl⟩
    · exact .inl ⟨a, seen, [], by simp, hp, rfl, rfl⟩

theorem course_during (step : String) (job : Job α) (seen : List Event)
    (o : Option (Attempt α)) :
    Course (job.during step) seen o ↔
      ∃ o', Course job seen o' ∧ o = o'.map (Attempt.during step) :=
  course_map job.attempt ..

@[simp] theorem course_during_ok (step : String) (job : Job α) (seen : List Event) (a : α) :
    Course (job.during step) seen (some (.ok a)) ↔ Course job seen (some (.ok a)) := by
  rw [course_during]
  constructor
  · rintro ⟨_ | _ | b, h, ho⟩
    · cases ho
    · cases ho
    · cases ho
      exact h
  · intro h
    exact ⟨_, h, rfl⟩

theorem course_ofProcedure (p : Procedure α) (seen : List Event) (o : Option (Attempt α)) :
    Course (ofProcedure p) seen o ↔ ∃ o', p.Course seen o' ∧ o = o'.map .ok :=
  course_map p ..

/-- A wait starts at some instant, with a deadline that far ahead of it, if the clock reaches to
it. -/
theorem course_start (interval : Nat) (timeout : Option Nat) (seen : List Event)
    (o : Option (Attempt Pacer)) :
    Course (Pacer.start interval timeout) seen o ↔
      seen = [] ∧ ∃ now, o = if Clock.Reaches now timeout then
        some (.ok ⟨interval, timeout.map (now + ·)⟩) else none := by
  have hnow : ∀ now, (if Clock.Reaches now timeout then
      .pure (.ok ⟨interval, timeout.map (now + ·)⟩)
      else .crash Pacer.beyondClock : Procedure (Attempt Pacer)).Course seen o ↔
        seen = [] ∧ o = if Clock.Reaches now timeout then
          some (.ok ⟨interval, timeout.map (now + ·)⟩) else none := by
    intro now
    split <;> rfl
  show (∃ now, _) ↔ _
  simp only [hnow, exists_and_left]

/-- Guarded work is not begun, or comes to its result, or is abandoned by itself or with what
encloses it. -/
theorem course_guarded (p : Pacer) (stopped : Interruption → Failure) (work : Procedure α)
    (seen : List Event) (o : Option (Attempt α)) :
    Course (p.guarded stopped work) seen o ↔
      (∃ cause, seen = [] ∧ o = some (.error (stopped cause))) ∨
      (∃ a, work.Course seen (some a) ∧ o = some (.ok a)) ∨
      (∃ cause, work.Course seen none ∧ o = some (.error (stopped cause))) ∨
      work.Course seen none ∧ o = none := by
  constructor
  · rintro (⟨c, rfl, ho⟩ | ⟨a, first, _, rfl, hw, rfl, ho⟩ | ⟨c, first, _, rfl, hw, rfl, ho⟩ | h)
    · exact .inl ⟨c, rfl, ho⟩
    · exact .inr (.inl ⟨a, by simpa using hw, ho⟩)
    · exact .inr (.inr (.inl ⟨c, by simpa using hw, ho⟩))
    · exact .inr (.inr (.inr h))
  · rintro (⟨c, rfl, ho⟩ | ⟨a, hw, ho⟩ | ⟨c, hw, ho⟩ | h)
    · exact .inl ⟨c, rfl, ho⟩
    · exact .inr (.inl ⟨a, seen, [], by simp, hw, rfl, ho⟩)
    · exact .inr (.inr (.inl ⟨c, seen, [], by simp, hw, rfl, ho⟩))
    · exact .inr (.inr (.inr h))

@[simp] theorem course_guarded_ok (p : Pacer) (stopped : Interruption → Failure)
    (work : Procedure α) (seen : List Event) (a : α) :
    Course (p.guarded stopped work) seen (some (.ok a)) ↔ work.Course seen (some a) := by
  simp [course_guarded]

end OsdMigration.Job
