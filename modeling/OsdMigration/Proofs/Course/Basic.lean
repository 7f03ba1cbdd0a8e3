import OsdMigration.Procedure.Lemmas

set_option autoImplicit false

/-! # Courses of a procedure

A course is what can be seen of a run from outside: the events, the earliest first, and the result
if the run came to one. `Procedure.Course` describes all courses of a procedure by recursion on the
procedure, without a server, a clock or a limit: a request may get any answer or none, and work
within a limit may be abandoned at any of its requests and pauses. Every run is a course
(`course_run`), so what holds of all courses holds for every behaviour of the cluster, every
deadline and every instant of cancellation.
-/

namespace OsdMigration


/-- The result of a run that came to one. -/
def Ending.result? {α : Type} : Ending α → Option α
  | .done a => some a
  | .abandoned .. | .stuck | .exhausted | .crashed _ => none

theorem eq_done_of_result {α : Type} {e : Ending α} {a : α} (h : e.result? = some a) :
    e = .done a := by
  cases e <;> cases h
  rfl

namespace Procedure

/-- The courses of a procedure: what is seen, and the result if there is one. -/
def Course : {α : Type} → Procedure α → List Event → Option α → Prop
  | _, .pure a, seen, o => seen = [] ∧ o = some a
  | _, .exhausted, seen, o => seen = [] ∧ o = none
  | _, .crash _, seen, o => seen = [] ∧ o = none
  | _, .tell m next, seen, o => ∃ t rest, seen = .told t m :: rest ∧ next.Course rest o
  | _, .clock next, seen, o => ∃ t, (next t).Course seen o
  | _, .sleep _ next, seen, o => next.Course seen o ∨ seen = [] ∧ o = none
  | _, .call r next, seen, o =>
    (∃ t, seen = [.called t r] ∧ o = none) ∨
      ∃ t u a rest, seen = .called t r :: .answered u r a :: rest ∧ (next a).Course rest o
  | _, .within _ work next, seen, o =>
    -- not begun, finished, abandoned at its own limit, or abandoned with what encloses it
    (∃ cause, (next (.error cause)).Course seen o) ∨
      (∃ b first rest, seen = first ++ rest ∧ work.Course first (some b) ∧
        (next (.ok b)).Course rest o) ∨
      (∃ cause first rest, seen = first ++ rest ∧ work.Course first none ∧
        (next (.error cause)).Course rest o) ∨
      work.Course seen none ∧ o = none

/-- A course of one procedure after another: one course after another, or a course of the first
that comes to no result. -/
theorem course_bind {α β : Type} (p : Procedure α) (f : α → Procedure β) (seen : List Event)
    (o : Option β) :
    (p.bind f).Course seen o ↔
      (∃ a first rest, seen = first ++ rest ∧ p.Course first (some a) ∧ (f a).Course rest o) ∨
        p.Course seen none ∧ o = none := by
  -- what the first procedure shows next stands in front of the whole and of the first part
  induction p generalizing seen with
  | pure a =>
      simp only [bind, Course]
      constructor
      · intro h
        exact .inl ⟨a, [], seen, rfl, ⟨rfl, rfl⟩, h⟩
      · rintro (⟨_, _, rest, rfl, ⟨rfl, h⟩, hf⟩ | ⟨⟨_, h⟩, _⟩)
        · rw [← Option.some.inj h]
          exact hf
        · cases h
  | exhausted => simp [bind, Course]
  | crash message => simp [bind, Course]
  | tell m next ih =>
      simp only [bind, Course]
      constructor
      · rintro ⟨t, rest, rfl, h⟩
        rcases (ih f rest).1 h with ⟨a, first, rest, rfl, hn, hf⟩ | ⟨hn, ho⟩
        · exact .inl ⟨a, .told t m :: first, rest, rfl, ⟨t, first, rfl, hn⟩, hf⟩
        · exact .inr ⟨⟨t, rest, rfl, hn⟩, ho⟩
      · rintro (⟨a, _, rest, rfl, ⟨t, first, rfl, hn⟩, hf⟩ | ⟨⟨t, rest, rfl, hn⟩, ho⟩)
        · exact ⟨t, first ++ rest, rfl, (ih f _).2 (.inl ⟨a, first, rest, rfl, hn, hf⟩)⟩
        · exact ⟨t, rest, rfl, (ih f _).2 (.inr ⟨hn, ho⟩)⟩
  | clock next ih =>
      simp only [bind, Course, ih]
      constructor
      · rintro ⟨t, ⟨a, first, rest, rfl, hn, hf⟩ | ⟨hn, ho⟩⟩
        · exact .inl ⟨a, first, rest, rfl, ⟨t, hn⟩, hf⟩
        · exact .inr ⟨⟨t, hn⟩, ho⟩
      · rintro (⟨a, first, rest, rfl, ⟨t, hn⟩, hf⟩ | ⟨⟨t, hn⟩, ho⟩)
        · exact ⟨t, .inl ⟨a, first, rest, rfl, hn, hf⟩⟩
        · exact ⟨t, .inr ⟨hn, ho⟩⟩
  | sleep d next ih =>
      simp only [bind, Course, ih]
      constructor
      · rintro ((⟨a, first, rest, rfl, hn, hf⟩ | ⟨hn, ho⟩) | ⟨rfl, ho⟩)
        · exact .inl ⟨a, first, rest, rfl, .inl hn, hf⟩
        · exact .inr ⟨.inl hn, ho⟩
        · exact .inr ⟨.inr ⟨rfl, trivial⟩, ho⟩
      · rintro (⟨a, first, rest, rfl, hn | ⟨_, h⟩, hf⟩ | ⟨hn | ⟨rfl, _⟩, ho⟩)
        · exact .inl (.inl ⟨a, first, rest, rfl, hn, hf⟩)
        · cases h
        · exact .inl (.inr ⟨hn, ho⟩)
        · exact .inr ⟨rfl, ho⟩
  | call r next ih =>
      simp only [bind, Course]
      constructor
      · rintro (⟨t, rfl, ho⟩ | ⟨t, u, x, rest, rfl, h⟩)
        · exact .inr ⟨.inl ⟨t, rfl, trivial⟩, ho⟩
        · rcases (ih x f rest).1 h with ⟨a, first, rest, rfl, hn, hf⟩ | ⟨hn, ho⟩
          · exact .inl ⟨a, .called t r :: .answered u r x :: first, rest, rfl,
              .inr ⟨t, u, x, first, rfl, hn⟩, hf⟩
          · exact .inr ⟨.inr ⟨t, u, x, rest, rfl, hn⟩, ho⟩
      · rintro (⟨a, _, rest, rfl, ⟨t, _, h⟩ | ⟨t, u, x, first, rfl, hn⟩, hf⟩ |
          ⟨⟨t, rfl, _⟩ | ⟨t, u, x, rest, rfl, hn⟩, ho⟩)
        · cases h
        · have hgoes := (ih x f _).2 (.inl ⟨a, first, rest, rfl, hn, hf⟩)
          exact .inr ⟨t, u, x, first ++ rest, rfl, hgoes⟩
        · exact .inl ⟨t, rfl, ho⟩
        · exact .inr ⟨t, u, x, rest, rfl, (ih x f _).2 (.inr ⟨hn, ho⟩)⟩
  | within deadline work next _ ih =>
      -- the four fates of the work are the same on both sides; what follows it is split
      simp only [bind, Course]
      constructor
      · rintro (⟨c, h⟩ | ⟨b, first, rest, rfl, hw, h⟩ | ⟨c, first, rest, rfl, hw, h⟩ | ⟨hw, ho⟩)
        · rcases (ih _ f _).1 h with ⟨a, first, rest, rfl, hn, hf⟩ | ⟨hn, ho⟩
          · exact .inl ⟨a, first, rest, rfl, .inl ⟨c, hn⟩, hf⟩
          · exact .inr ⟨.inl ⟨c, hn⟩, ho⟩
        · rcases (ih _ f _).1 h with ⟨a, mid, rest, rfl, hn, hf⟩ | ⟨hn, ho⟩
          · exact .inl ⟨a, first ++ mid, rest, by simp,
              .inr (.inl ⟨b, first, mid, rfl, hw, hn⟩), hf⟩
          · exact .inr ⟨.inr (.inl ⟨b, first, rest, rfl, hw, hn⟩), ho⟩
        · rcases (ih _ f _).1 h with ⟨a, mid, rest, rfl, hn, hf⟩ | ⟨hn, ho⟩
          · exact .inl ⟨a, first ++ mid, rest, by simp,
              .inr (.inr (.inl ⟨c, first, mid, rfl, hw, hn⟩)), hf⟩
          · exact .inr ⟨.inr (.inr (.inl ⟨c, first, rest, rfl, hw, hn⟩)), ho⟩
        · exact .inr ⟨.inr (.inr (.inr ⟨hw, trivial⟩)), ho⟩
      · rintro (⟨a, _, rest, rfl, h, hf⟩ | ⟨h, ho⟩)
        · rcases h with ⟨c, hn⟩ | ⟨b, first, mid, rfl, hw, hn⟩ | ⟨c, first, mid, rfl, hw, hn⟩ |
            ⟨_, h⟩
          · exact .inl ⟨c, (ih _ f _).2 (.inl ⟨a, _, rest, rfl, hn, hf⟩)⟩
          · exact .inr (.inl ⟨b, first, mid ++ rest, by simp, hw,
              (ih _ f _).2 (.inl ⟨a, mid, rest, rfl, hn, hf⟩)⟩)
          · exact .inr (.inr (.inl ⟨c, first, mid ++ rest, by simp, hw,
              (ih _ f _).2 (.inl ⟨a, mid, rest, rfl, hn, hf⟩)⟩))
          · cases h
        · rcases h with ⟨c, hn⟩ | ⟨b, first, rest, rfl, hw, hn⟩ | ⟨c, first, rest, rfl, hw, hn⟩ |
            ⟨hw, _⟩
          · exact .inl ⟨c, (ih _ f _).2 (.inr ⟨hn, ho⟩)⟩
          · exact .inr (.inl ⟨b, first, rest, rfl, hw, (ih _ f _).2 (.inr ⟨hn, ho⟩)⟩)
          · exact .inr (.inr (.inl ⟨c, first, rest, rfl, hw, (ih _ f _).2 (.inr ⟨hn, ho⟩)⟩))
          · exact .inr (.inr (.inr ⟨hw, ho⟩))

/-! ## Runs are courses -/

variable {σ : Type}

theorem seen_waiting {α : Type} (limit : Option Limit) (t : Timeline σ) :
    (Ending.waiting limit t : Ending α × Timeline σ).2.seen = t.seen ∧
      (Ending.waiting limit t : Ending α × Timeline σ).1.result? = none := by
  cases limit <;> exact ⟨rfl, rfl⟩

/-- Every run adds a course to what was seen before. -/
theorem course_runWithin (server : Server σ) (cancelAt : Option Nat) {α : Type} (p : Procedure α)
    (limit : Option Limit) (depth : Nat) (t : Timeline σ) :
    ∃ seen, (p.runWithin server cancelAt limit depth t).2.seen = seen.reverse ++ t.seen ∧
      p.Course seen (p.runWithin server cancelAt limit depth t).1.result? := by
  induction p generalizing limit depth t with
  | pure a => exact ⟨[], rfl, rfl, rfl⟩
  | exhausted => exact ⟨[], rfl, rfl, rfl⟩
  | crash message => exact ⟨[], rfl, rfl, rfl⟩
  | tell m next ih =>
      obtain ⟨seen, hs, hc⟩ := ih limit depth { t with seen := .told t.time m :: t.seen }
      exact ⟨.told t.time m :: seen, by simp [runWithin, hs], t.time, seen, rfl, hc⟩
  | clock next ih =>
      obtain ⟨seen, hs, hc⟩ := ih t.time limit depth t
      exact ⟨seen, hs, t.time, hc⟩
  | sleep d next ih =>
      simp only [runWithin]
      split
      · rename_i u _
        obtain ⟨seen, hs, hc⟩ := ih limit depth { t with time := u }
        exact ⟨seen, hs, .inl hc⟩
      · obtain ⟨hs, hr⟩ := seen_waiting (α := _) limit t
        exact ⟨[], hs, .inr ⟨rfl, hr⟩⟩
  | call r next ih =>
      simp only [runWithin]
      split
      · obtain ⟨hs, hr⟩ := seen_waiting (α := _) limit
          ⟨t.time, (server.receive t.time r t.server).2, .called t.time r :: t.seen⟩
        exact ⟨[.called t.time r], hs, .inl ⟨t.time, rfl, hr⟩⟩
      · rename_i u _
        split
        · rename_i a s _
          obtain ⟨seen, hs, hc⟩ :=
            ih a limit depth ⟨u, s, .answered u r a :: .called t.time r :: t.seen⟩
          exact ⟨.called t.time r :: .answered u r a :: seen, by simp [hs],
            .inr ⟨t.time, u, a, seen, rfl, hc⟩⟩
        · -- it hangs in the server
          rename_i s _
          obtain ⟨hs, hr⟩ := seen_waiting (α := _) limit ⟨u, s, .called t.time r :: t.seen⟩
          exact ⟨[.called t.time r], hs, .inl ⟨t.time, rfl, hr⟩⟩
  | within deadline work next ihw ih =>
      simp only [runWithin]
      split
      · rename_i cause _
        obtain ⟨seen, hs, hc⟩ := ih (.error cause) limit depth t
        exact ⟨seen, hs, .inl ⟨cause, hc⟩⟩
      · obtain ⟨first, hs, hc⟩ := ihw
          (Limit.earlier limit (Limit.ofWork cancelAt deadline depth)) (depth + 1) t
        generalize work.runWithin server cancelAt
          (Limit.earlier limit (Limit.ofWork cancelAt deadline depth)) (depth + 1) t = e at hs hc
        obtain ⟨b | ⟨cause, d⟩ | _ | _ | _, u⟩ := e <;>
          replace hs : u.seen = first.reverse ++ t.seen := hs
        · obtain ⟨rest, hr, hn⟩ := ih (.ok b) limit depth u
          exact ⟨first ++ rest, by simpa [Ending.caught, Ending.andThen, hs] using hr,
            .inr (.inl ⟨b, first, rest, rfl, hc, hn⟩)⟩
        · -- abandoned: the limit was its own or that of something around it
          simp only [Ending.caught]
          split
          · obtain ⟨rest, hr, hn⟩ := ih (.error cause) limit depth u
            exact ⟨first ++ rest, by simpa [Ending.andThen, hs] using hr,
              .inr (.inr (.inl ⟨cause, first, rest, rfl, hc, hn⟩))⟩
          · exact ⟨first, hs, .inr (.inr (.inr ⟨hc, rfl⟩))⟩
        all_goals exact ⟨first, hs, .inr (.inr (.inr ⟨hc, rfl⟩))⟩

/-- A run from its beginning: how it ends, and what was seen of it, the earliest first. -/
def watch {α : Type} (server : Server σ) (cancelAt : Option Nat) (p : Procedure α) (now : Nat)
    (s : σ) : Ending α × List Event :=
  let (e, t) := p.run server cancelAt ⟨now, s, []⟩
  (e, t.seen.reverse)

/-- What is seen of a run from its beginning is a course. -/
theorem course_watch (server : Server σ) (cancelAt : Option Nat) {α : Type} (p : Procedure α)
    (now : Nat) (s : σ) :
    p.Course (p.watch server cancelAt now s).2 (p.watch server cancelAt now s).1.result? := by
  obtain ⟨seen, hs, hc⟩ := course_runWithin server cancelAt p none 0 ⟨now, s, []⟩
  have hw : (p.watch server cancelAt now s).2 = seen := by
    simp [watch, run, hs]
  rw [hw]
  exact hc

/-- What was seen before a run goes on comes first. -/
theorem watch_of_run {α : Type} {server : Server σ} {cancelAt : Option Nat} {p rest : Procedure α}
    {now : Nat} {s : σ} {t : Timeline σ}
    (h : p.run server cancelAt ⟨now, s, []⟩ = rest.run server cancelAt t) :
    ∃ more, (p.watch server cancelAt now s).2 = t.seen.reverse ++ more := by
  obtain ⟨more, hs, _⟩ := course_runWithin server cancelAt rest none 0 t
  refine ⟨more, ?_⟩
  have hw : (p.watch server cancelAt now s).2 =
      (p.run server cancelAt ⟨now, s, []⟩).2.seen.reverse := rfl
  rw [hw, h, run, hs, List.reverse_append, List.reverse_reverse]

end Procedure

end OsdMigration
