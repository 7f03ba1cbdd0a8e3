import OsdMigration.Cluster.Request

set_option autoImplicit false

/-! # Procedures

A procedure is a tree: it makes a request and goes on with whatever the answer is, says something
to its user, sleeps, or does a part of its work within a limit. A tree holds every behaviour of
the cluster at once, because each request branches over all its answers; a run
(`Procedure/Run.lean`) follows one branch. Whoever cancels is seen only by work within a limit. A
crash is no result: nothing comes behind it, and no enclosing work catches it.

A `Job` is a procedure that may fail.
-/

namespace OsdMigration

open Cluster (Request)

/-- Why work within a limit was abandoned. -/
inductive Interruption where
  | cancelled
  | deadline
deriving DecidableEq, Repr

/-- The failure of a wait that was interrupted. Only a deadline says what was seen last. -/
def Interruption.failure (operation : String) (last : Option String) : Interruption → Failure
  | .cancelled => .cancelled operation
  | .deadline => .timeout operation last

/-- Something said to the user. -/
inductive Message where
  /-- A line that stays. -/
  | line (text : String)
  /-- A line that stays and ends with the time of day. -/
  | stamped (text : String)
  /-- A line that the next one of its kind replaces. -/
  | passing (text : String)
deriving DecidableEq, Repr

/-- A procedure with a result of the given type. -/
inductive Procedure : Type → Type 1 where
  /-- The result. -/
  | pure {α : Type} (a : α) : Procedure α
  /-- The bound on the number of polls was reached. -/
  | exhausted {α : Type} : Procedure α
  /-- The program crashes, with a message of its own. -/
  | crash {α : Type} (message : String) : Procedure α
  /-- A request, and how to go on with the answer. -/
  | call {α : Type} (r : Request) (next : Attempt r.Reply → Procedure α) : Procedure α
  /-- A message to the user. -/
  | tell {α : Type} (m : Message) (next : Procedure α) : Procedure α
  /-- Reading the clock, in milliseconds. -/
  | clock {α : Type} (next : Nat → Procedure α) : Procedure α
  /-- Waiting so many milliseconds. -/
  | sleep {α : Type} (duration : Nat) (next : Procedure α) : Procedure α
  /-- Work that is abandoned when the user cancels or the deadline comes. -/
  | within {α β : Type} (deadline : Option Nat) (work : Procedure β)
      (next : Except Interruption β → Procedure α) : Procedure α

namespace Procedure

/-- One procedure after another. -/
def bind {α β : Type} : Procedure α → (α → Procedure β) → Procedure β
  | .pure a, f => f a
  | .exhausted, _ => .exhausted
  | .crash message, _ => .crash message
  | .call r next, f => .call r fun a => (next a).bind f
  | .tell m next, f => .tell m (next.bind f)
  | .clock next, f => .clock fun t => (next t).bind f
  | .sleep d next, f => .sleep d (next.bind f)
  | .within deadline work next, f => .within deadline work fun o => (next o).bind f

instance : Monad Procedure where
  pure := .pure
  bind := Procedure.bind

theorem bind_pure {α : Type} (p : Procedure α) : p.bind .pure = p := by
  induction p with
  | pure a => rfl
  | exhausted => rfl
  | crash message => rfl
  | call r next ih => simp only [bind, ih]
  | tell m next ih => simp only [bind, ih]
  | clock next ih => simp only [bind, ih]
  | sleep d next ih => simp only [bind, ih]
  | within deadline work next _ ih => simp only [bind, ih]

theorem bind_assoc {α β γ : Type} (p : Procedure α) (f : α → Procedure β)
    (g : β → Procedure γ) : (p.bind f).bind g = p.bind fun a => (f a).bind g := by
  induction p with
  | pure a => rfl
  | exhausted => rfl
  | crash message => rfl
  | call r next ih => simp only [bind, ih]
  | tell m next ih => simp only [bind, ih]
  | clock next ih => simp only [bind, ih]
  | sleep d next ih => simp only [bind, ih]
  | within deadline work next _ ih => simp only [bind, ih]

end Procedure

/-- A procedure that may fail. -/
abbrev Job (α : Type) : Type 1 := ExceptT Failure Procedure α

namespace Job

/-- The job as a procedure whose result may be a failure. -/
def attempt {α : Type} (job : Job α) : Procedure (Attempt α) := job.run

/-- The job whose outcome is already known. -/
def ofAttempt {α : Type} (a : Attempt α) : Job α := .mk (.pure a)

/-- The job that fails. -/
def fail {α : Type} (f : Failure) : Job α := ofAttempt (.error f)

/-- A request. -/
def ask (r : Request) : Job r.Reply := .mk (.call r .pure)

/-- A message to the user. -/
def tell (m : Message) : Job Unit := .mk (.tell m (.pure (.ok ())))

/-- A line that stays. -/
def report (text : String) : Job Unit := tell (.line text)

/-- The job with its failure annotated by a step. -/
def during {α : Type} (step : String) (job : Job α) : Job α :=
  .mk (job.attempt.bind fun a => .pure (a.during step))

/-- The job of a procedure that does not fail. -/
def ofProcedure {α : Type} (p : Procedure α) : Job α := .mk (p.bind fun a => .pure (.ok a))

end Job

end OsdMigration
