import OsdMigration.Proofs.Course.Cut
import OsdMigration.Proofs.Course.Guarded
import OsdMigration.Rehearsal.Pacing

set_option autoImplicit false

/-! # A pacer does not recover

Pauses and pieces of work of one pacer, one after the other. Each of them is what it is by itself if
it ends before the deadline and before the user cancels, and else it is interrupted at that instant
(`outcome_guard`). The first interruption is also the outcome of everything that comes after it, at
once and without any of the work (`interruption_lasts`).
-/

namespace OsdMigration

open Procedure (Ahead Cut)

variable {σ α : Type} {server : Server σ} {cancelAt : Option Nat} {p : Pacer} {t : Timeline σ}

namespace Pacer

/-! ## The end of a wait -/

/-- The instant at which a wait ends, and why: the user's cancellation or the deadline, whichever
comes first. Of the two at one instant it is the cancellation. -/
inductive Closes (p : Pacer) (cancelAt : Option Nat) : Nat → Interruption → Prop
  | cancelled {x : Nat} (user : x ∈ cancelAt) (first : ∀ d ∈ p.deadline, x ≤ d) :
      Closes p cancelAt x .cancelled
  | deadline {d : Nat} (due : d ∈ p.deadline) (first : ∀ x ∈ cancelAt, d < x) :
      Closes p cancelAt d .deadline

theorem closes_of_mem {l : Limit} {depth : Nat}
    (h : l ∈ Limit.ofWork cancelAt p.deadline depth) : p.Closes cancelAt l.time l.cause := by
  obtain ⟨interval, deadline⟩ := p
  cases cancelAt with
  | none =>
      obtain ⟨d, hd, rfl⟩ := Option.map_eq_some_iff.1 h
      exact .deadline hd nofun
  | some x =>
      cases deadline with
      | none =>
          cases h
          exact .cancelled rfl nofun
      | some d =>
          simp only [Limit.ofWork, Option.map_some, Limit.earlier] at h
          split at h <;> cases h
          · rename_i hlt
            exact .deadline rfl fun x' hx' => Option.some.inj hx' ▸ hlt
          · rename_i hnlt
            exact .cancelled rfl fun d' hd' => Option.some.inj hd' ▸ Nat.le_of_not_lt hnlt

/-- A wait that has ended is found to have ended, and why. -/
theorem Closes.atStart? {instant now : Nat} {cause : Interruption}
    (h : p.Closes cancelAt instant cause) (hle : instant ≤ now)
    (hdeadline : ∀ d ∈ p.deadline, now ≤ max instant d) :
    Limit.atStart? cancelAt p.deadline now = some cause := by
  cases h with
  | cancelled user first =>
      obtain rfl : cancelAt = some instant := user
      simp [Limit.atStart?, hle]
  | deadline due first =>
      have hnow : now = instant := by
        have := hdeadline instant due
        omega
      have hc : cancelAt.any (· ≤ now) = false := by
        cases cancelAt with
        | none => rfl
        | some x =>
            have := first x rfl
            simp
            omega
      rw [Limit.atStart?, hc, show p.deadline = some instant from due]
      simp [hle]

/-- A wait is not found to have ended before it has, and if it is at its deadline at the latest, the
reason that is found is the right one. -/
theorem exists_closes_of_atStart? {now : Nat} {cause : Interruption}
    (h : Limit.atStart? cancelAt p.deadline now = some cause)
    (hdeadline : ∀ d ∈ p.deadline, now ≤ d) :
    ∃ instant, p.Closes cancelAt instant cause ∧ instant ≤ now := by
  unfold Limit.atStart? at h
  by_cases hc : cancelAt.any (· ≤ now) = true
  · rw [if_pos hc] at h
    cases h
    obtain ⟨x, hx, hle⟩ := (Option.any_eq_true ..).1 hc
    have hle : x ≤ now := of_decide_eq_true hle
    exact ⟨x, .cancelled hx fun d hd => Nat.le_trans hle (hdeadline d hd), hle⟩
  · rw [if_neg hc] at h
    by_cases hd : p.deadline.any (· ≤ now) = true
    · rw [if_pos hd] at h
      cases h
      obtain ⟨d, hd, hle⟩ := (Option.any_eq_true ..).1 hd
      have hle : d ≤ now := of_decide_eq_true hle
      refine ⟨d, .deadline hd fun x hx => Nat.lt_of_not_le fun hxd => hc ?_, hle⟩
      have hx' : x ≤ now := Nat.le_trans hxd hle
      exact (Option.any_eq_true ..).2 ⟨x, hx, decide_eq_true hx'⟩
    · rw [if_neg hd] at h
      cases h

/-! ## One operation -/

/-- What becomes of a piece of work that is guarded by a pacer. -/
inductive Outcome (server : Server σ) (cancelAt : Option Nat) (p : Pacer) (work : Procedure α)
    (t : Timeline σ) : Ending (Except Interruption α) × Timeline σ → Prop
  /-- It ends as it does by itself, before the deadline and before the user cancels. -/
  | finished {a : α} {u : Timeline σ} (own : work.run server cancelAt t = (.done a, u))
      (before : p.Open cancelAt u.time) : Outcome server cancelAt p work t (.done (.ok a), u)
  /-- It does not end by itself before the wait does. It is interrupted exactly then, or before it
  begins if that has been already. -/
  | interrupted {instant : Nat} {cause : Interruption} {v : Timeline σ}
      (closes : p.Closes cancelAt instant cause)
      (late : ∀ a u, work.run server cancelAt t = (.done a, u) → instant ≤ u.time)
      (time : v.time = max t.time instant) (unbegun : instant ≤ t.time → v = t) :
      Outcome server cancelAt p work t (.done (.error cause), v)
  /-- It never ends, and nothing interrupts it. -/
  | waiting {u : Timeline σ} (user : cancelAt = none) (deadline : p.deadline = none)
      (own : work.run server cancelAt t = (.stuck, u)) :
      Outcome server cancelAt p work t (.stuck, u)
  /-- Its own polls run out before the wait ends. -/
  | exhausted {u : Timeline σ} (own : work.run server cancelAt t = (.exhausted, u))
      (before : p.Open cancelAt u.time) : Outcome server cancelAt p work t (.exhausted, u)
  /-- It crashes before the wait ends. -/
  | crashed {message : String} {u : Timeline σ}
      (own : work.run server cancelAt t = (.crashed message, u))
      (before : p.Open cancelAt u.time) : Outcome server cancelAt p work t (.crashed message, u)

theorem ofWork_eq_none {deadline : Option Nat} {depth : Nat}
    (h : Limit.ofWork cancelAt deadline depth = none) : cancelAt = none ∧ deadline = none := by
  cases cancelAt with
  | none => exact ⟨rfl, Option.map_eq_none_iff.1 h⟩
  | some x =>
      cases deadline with
      | none => cases h
      | some d =>
          rw [Limit.ofWork, Option.map_some, Option.map_some, Limit.earlier_some] at h
          cases h

/-- Work that is cut off at the end of a wait has the outcome of guarded work. -/
theorem outcome_of_cut {work : Procedure α} {e : Ending α × Timeline σ}
    (hahead : Ahead t.time (Limit.ofWork cancelAt p.deadline 0))
    (h : Cut (Limit.ofWork cancelAt p.deadline 0) (work.run server cancelAt t) e) :
    Outcome server cancelAt p work t (Ending.caught 0 e) := by
  have hnever := Procedure.run_ne_abandoned server cancelAt work t
  generalize hown : work.run server cancelAt t = own at h hnever
  obtain ⟨r, u⟩ := own
  cases h with
  | early moves ahead =>
      have hopen : p.Open cancelAt u.time := Procedure.ahead_ofWork_iff.1 ahead
      cases r with
      | done a => exact .finished hown hopen
      | abandoned cause depth => exact absurd rfl (hnever cause depth)
      | stuck =>
          obtain ⟨huser, hdeadline⟩ := ofWork_eq_none (moves rfl)
          exact .waiting huser hdeadline hown
      | exhausted => exact .exhausted hown hopen
      | crashed message => exact .crashed hown hopen
  | late hl late time =>
      rename_i l v
      have hlt : t.time < l.time := hahead l hl
      rw [Ending.caught, if_pos (Procedure.depth_ofWork hl)]
      refine .interrupted (closes_of_mem hl) (fun a w hw => ?_) ?_ fun hle => ?_
      · rw [hown] at hw
        cases hw
        rcases late with hs | hle
        · cases hs
        · exact hle
      · rw [time]
        exact (Nat.max_eq_right (Nat.le_of_lt hlt)).symm
      · exact absurd hlt (Nat.not_lt.2 hle)

theorem outcome_guard (server : Server σ) (cancelAt : Option Nat) (work : Procedure α)
    (ht : ∀ d ∈ p.deadline, t.time ≤ d) :
    Outcome server cancelAt p work t ((p.guard work).run server cancelAt t) := by
  rw [run_guard]
  cases hs : Limit.atStart? cancelAt p.deadline t.time with
  | some cause =>
      obtain ⟨instant, hcloses, hle⟩ := exists_closes_of_atStart? hs ht
      refine .interrupted hcloses (fun a u hown => ?_) (Nat.max_eq_left hle).symm fun _ => rfl
      have htime := Procedure.le_time_run server cancelAt work t
      rw [hown] at htime
      exact Nat.le_trans hle htime
  | none =>
      have hahead : Ahead t.time (Limit.ofWork cancelAt p.deadline 0) := Procedure.ahead_ofWork hs
      have hdepth : ∀ l ∈ Limit.ofWork cancelAt p.deadline 0, l.depth ≤ 0 := fun l hl =>
        Nat.le_of_eq (Procedure.depth_ofWork hl)
      have hcut := Procedure.cut_runWithin server cancelAt work
        (Limit.ofWork cancelAt p.deadline 0) none 0 t hahead hdepth nofun nofun
      rw [Limit.under, Option.map_none, Limit.earlier_none] at hcut
      exact outcome_of_cut hahead hcut

/-! ## One operation after the other -/

/-- What can be done with a pacer: a pause, or a piece of work. -/
inductive Operation where
  | tick
  | guard (work : Procedure Unit)

/-- What is done if nothing interrupts it. -/
def Operation.work (p : Pacer) : Operation → Procedure Unit
  | .tick => .sleep p.interval (.pure ())
  | .guard work => work

/-- Does one thing. -/
def Operation.perform (p : Pacer) : Operation → Procedure (Except Interruption Unit)
  | .tick => p.tick
  | .guard work => p.guard work

/-- Does one thing after the other; each result comes with its instant. -/
def inTurn (p : Pacer) : List Operation → Procedure (List (Except Interruption Unit × Nat))
  | [] => .pure []
  | op :: ops =>
    (op.perform p).bind fun o =>
      .clock fun now => (p.inTurn ops).bind fun os => .pure ((o, now) :: os)

theorem Operation.perform_eq (p : Pacer) (op : Operation) :
    op.perform p = p.guard (op.work p) := by
  cases op <;> rfl

theorem run_inTurn_cons (p : Pacer) (op : Operation) (ops : List Operation) (t : Timeline σ) :
    (p.inTurn (op :: ops)).run server cancelAt t =
      Ending.andThen ((p.guard (op.work p)).run server cancelAt t) fun o u =>
        Ending.andThen ((p.inTurn ops).run server cancelAt u) fun os v =>
          (.done ((o, u.time) :: os), v) := by
  rw [← Operation.perform_eq]
  refine (Procedure.runWithin_bind ..).trans ?_
  congr 1
  funext o u
  exact Procedure.runWithin_bind ..

/-- Once a wait has ended, nothing is done any more. -/
theorem run_inTurn_closed (server : Server σ) {cause : Interruption}
    (h : Limit.atStart? cancelAt p.deadline t.time = some cause) (ops : List Operation) :
    (p.inTurn ops).run server cancelAt t =
      (.done (ops.map fun _ => (.error cause, t.time)), t) := by
  induction ops with
  | nil => rfl
  | cons op ops ih =>
      have hfirst : (p.guard (op.work p)).run server cancelAt t = (.done (.error cause), t) := by
        rw [run_guard, h]
      rw [run_inTurn_cons, hfirst]
      simp only [Ending.andThen, ih, List.map_cons]

/-- What becomes of operations of one pacer, the results and where the run is then. -/
inductive Paced (server : Server σ) (cancelAt : Option Nat) (p : Pacer) :
    List Operation → Timeline σ →
      Ending (List (Except Interruption Unit × Nat)) × Timeline σ → Prop
  | nil (t : Timeline σ) : Paced server cancelAt p [] t (.done [], t)
  /-- After an operation that has ended the others are performed from there on. -/
  | finished {op : Operation} {ops : List Operation} {t u : Timeline σ}
      {e : Ending (List (Except Interruption Unit × Nat)) × Timeline σ}
      (first : Outcome server cancelAt p (op.work p) t (.done (.ok ()), u))
      (others : Paced server cancelAt p ops u e) :
      Paced server cancelAt p (op :: ops) t
        (Ending.andThen e fun os v => (.done ((.ok (), u.time) :: os), v))
  /-- After one that was interrupted all others are, for the same reason and at the same instant,
  and the run is where the first of them has left it. -/
  | interrupted {op : Operation} {ops : List Operation} {t v : Timeline σ} {cause : Interruption}
      (first : Outcome server cancelAt p (op.work p) t (.done (.error cause), v)) :
      Paced server cancelAt p (op :: ops) t
        (.done ((op :: ops).map fun _ => (.error cause, v.time)), v)
  /-- One that does not end is the last one. -/
  | waiting {op : Operation} {ops : List Operation} {t u : Timeline σ}
      (first : Outcome server cancelAt p (op.work p) t (.stuck, u)) :
      Paced server cancelAt p (op :: ops) t (.stuck, u)
  | exhausted {op : Operation} {ops : List Operation} {t u : Timeline σ}
      (first : Outcome server cancelAt p (op.work p) t (.exhausted, u)) :
      Paced server cancelAt p (op :: ops) t (.exhausted, u)
  | crashed {op : Operation} {ops : List Operation} {t u : Timeline σ} {message : String}
      (first : Outcome server cancelAt p (op.work p) t (.crashed message, u)) :
      Paced server cancelAt p (op :: ops) t (.crashed message, u)

theorem paced_inTurn (server : Server σ) (cancelAt : Option Nat) (p : Pacer)
    (ops : List Operation) (t : Timeline σ) (ht : ∀ d ∈ p.deadline, t.time ≤ d) :
    Paced server cancelAt p ops t ((p.inTurn ops).run server cancelAt t) := by
  induction ops generalizing t with
  | nil => exact .nil t
  | cons op ops ih =>
      have hfirst := outcome_guard server cancelAt (op.work p) ht
      rw [run_inTurn_cons]
      generalize (p.guard (op.work p)).run server cancelAt t = e at hfirst
      cases hfirst with
      | finished own before =>
          -- it has ended before the deadline, so the next one begins in time
          exact .finished (.finished own before) (ih _ fun d hd => Nat.le_of_lt (before.2 d hd))
      | interrupted closes late time unbegun =>
          rename_i instant cause v
          -- at this instant the wait is found to have ended, by whatever comes next
          have hclosed : Limit.atStart? cancelAt p.deadline v.time = some cause := by
            refine closes.atStart? (time ▸ Nat.le_max_right _ _) fun d hd => ?_
            have := ht d hd
            omega
          have hrest := run_inTurn_closed server hclosed ops
          simp only [Ending.andThen, hrest]
          exact .interrupted (.interrupted closes late time unbegun)
      | waiting user deadline own => exact .waiting (.waiting user deadline own)
      | exhausted own before => exact .exhausted (.exhausted own before)
      | crashed own before => exact .crashed (.crashed own before)

end Pacer

/-- What is done at a beat. -/
def Beat.operation : Beat → Pacer.Operation
  | .tick => .tick
  | .guard e => .guard e.work

theorem performAll_eq (p : Pacer) (beats : List Beat) :
    performAll p beats = p.inTurn (beats.map Beat.operation) := by
  induction beats with
  | nil => rfl
  | cons b beats ih =>
      rw [performAll, List.map_cons, Pacer.inTurn, ih]
      cases b <;> rfl

/-- Whatever is done in turn with a pacer, from the instant at which it was started: a wait with
such a deadline starts if the clock reaches to it. -/
theorem Pacer.interruption_lasts (server : Server σ) (cancelAt : Option Nat) (interval : Nat)
    (timeout : Option Nat) (t : Timeline σ) :
    ∃ p : Pacer, p.interval = interval ∧ p.deadline = timeout.map (t.time + ·) ∧
      (Pacer.start interval timeout).attempt.run server cancelAt t =
        (if Clock.Reaches t.time timeout then .done (.ok p) else .crashed Pacer.beyondClock, t) ∧
      (∀ ops, Paced server cancelAt p ops t ((p.inTurn ops).run server cancelAt t)) ∧
      ∀ beats, Paced server cancelAt p (beats.map Beat.operation) t
        ((performAll p beats).run server cancelAt t) := by
  have hahead : ∀ d ∈ timeout.map (t.time + ·), t.time ≤ d := by
    intro d hd
    obtain ⟨n, _, rfl⟩ := Option.map_eq_some_iff.1 hd
    exact Nat.le_add_right _ _
  let p : Pacer := ⟨interval, timeout.map (t.time + ·)⟩
  have hpaced : ∀ ops, Paced server cancelAt p ops t ((p.inTurn ops).run server cancelAt t) :=
    fun ops => paced_inTurn server cancelAt p ops t hahead
  refine ⟨p, rfl, rfl, ?_, hpaced, fun beats => ?_⟩
  · by_cases hr : Clock.Reaches t.time timeout
    · rw [if_pos hr, Job.run_start hr]
    · rw [if_neg hr, Job.run_start_beyond hr]
  · rw [performAll_eq]
    exact hpaced _

/-- A deadline that comes in the third of five. -/
example : pace 10 (some 25) (some 100)
    [.tick, .guard (.lasting 5), .guard .endless, .tick, .guard .ready] =
      .done [(.ok (), 10), (.ok (), 15), (.error .deadline, 25), (.error .deadline, 25),
        (.error .deadline, 25)] := rfl

/-- The user has cancelled, and the deadline has come too. -/
example : pace 10 (some 0) (some 0) [.guard .ready, .tick] =
    .done [(.error .cancelled, 0), (.error .cancelled, 0)] := rfl

end OsdMigration
