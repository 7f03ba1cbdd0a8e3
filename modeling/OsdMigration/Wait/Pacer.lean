import OsdMigration.Procedure.Basic

set_option autoImplicit false

/-! # Polling

A wait polls at a fixed interval until its condition holds, its deadline comes, or the user
cancels. Both the work of a poll and the pause behind it are abandoned at the deadline, so a
request that is never answered does not outlive the wait it belongs to.

A deadline is an instant of the clock, and the clock comes to an end. A wait that is given more time
than is left of it does not start: the program crashes there.
-/

namespace OsdMigration

/-- The interval of a wait, and the instant at which it ends. -/
structure Pacer where
  interval : Nat
  deadline : Option Nat
deriving DecidableEq, Repr

/-- What a poll leads to: the wait is over, or it goes on, with something to remember and
perhaps something to tell in passing. -/
inductive Poll (ω : Type) where
  | met
  | again (w : ω) (passing : Option String)
deriving DecidableEq, Repr

/-- The milliseconds of the clock, which counts seconds with a sign in 64 bits: `2 ^ 63` seconds.
Times are counted from its start. -/
def Clock.length : Nat := 9223372036854775808 * 1000

/-- Whether the clock has an instant so many milliseconds ahead. -/
def Clock.Reaches (now : Nat) (timeout : Option Nat) : Prop :=
  ∀ d ∈ timeout, now + d < Clock.length

instance Clock.decidableReaches (now : Nat) (timeout : Option Nat) :
    Decidable (Clock.Reaches now timeout) :=
  inferInstanceAs (Decidable (∀ d ∈ timeout, now + d < Clock.length))

@[simp] theorem Clock.reaches_none (now : Nat) : Clock.Reaches now none := nofun

@[simp] theorem Clock.reaches_some {now timeout : Nat} :
    Clock.Reaches now (some timeout) ↔ now + timeout < Clock.length :=
  ⟨fun h => h timeout rfl, fun h _ hd => Option.some.inj hd ▸ h⟩

namespace Pacer

/-- The message of the crash. -/
def beyondClock : String := "overflow when adding duration to instant"

/-- A pacer that starts now. -/
def start (interval : Nat) (timeout : Option Nat) : Job Pacer :=
  .mk (.clock fun now =>
    if Clock.Reaches now timeout then .pure (.ok ⟨interval, timeout.map (now + ·)⟩)
    else .crash beyondClock)

/-- A pause of one interval. -/
def tick (p : Pacer) : Procedure (Except Interruption Unit) :=
  .within p.deadline (.sleep p.interval (.pure ())) .pure

/-- A piece of work. -/
def guard {α : Type} (p : Pacer) (work : Procedure α) : Procedure (Except Interruption α) :=
  .within p.deadline work .pure

/-- A piece of work that turns an interruption into a failure of the wait. -/
def guarded {α : Type} (p : Pacer) (stopped : Interruption → Failure) (work : Procedure α) :
    Job α :=
  .mk ((p.guard work).bind fun o => .pure (o.mapError stopped))

/-- Polls until the wait is over, at most so many times. An interruption of the pause is a failure
that depends on what is remembered. -/
def wait {ω : Type} (p : Pacer) (stopped : ω → Interruption → Failure) (poll : ω → Job (Poll ω)) :
    Nat → ω → Job Unit
  | 0, _ => .mk .exhausted
  | n + 1, w => do
    match ← poll w with
    | .met => pure ()
    | .again w passing =>
      passing.forM fun text => Job.tell (.passing text)
      p.guarded (stopped w) (.sleep p.interval (.pure ()))
      p.wait stopped poll n w

end Pacer

end OsdMigration
