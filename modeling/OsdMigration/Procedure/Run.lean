import OsdMigration.Procedure.Basic

set_option autoImplicit false

/-! # Running a procedure

A run follows a procedure against a server under a virtual clock: computing takes no time, and the
clock only moves while the procedure sleeps or waits for an answer. What the server does is up to
it: each request is received, and at some later instant, or never, it is answered.

Work within a limit is abandoned at the instant at which the user cancels or its deadline comes.
Where two of these fall on one instant, the outermost piece of work is the one that is abandoned,
and of its two reasons the user's comes first; the end of the work itself comes last. A request
that is abandoned before its answer has no effect beyond having been received.
-/

namespace OsdMigration

open Cluster (Request)

/-- How a cluster behaves, as a function of its state and the time. -/
structure Server (σ : Type) where
  /-- A request arrives: the delay of its answer, if there will be one. -/
  receive : Nat → Request → σ → Option Nat × σ
  /-- A request is carried out and answered, unless it hangs then. -/
  answer : Nat → (r : Request) → σ → Option (Attempt r.Reply) × σ

/-- What can be seen of a run. -/
inductive Event where
  | called (time : Nat) (r : Request)
  | answered (time : Nat) (r : Request) (a : Attempt r.Reply)
  | told (time : Nat) (m : Message)

/-- A run in progress: the time, the state of the server, and what was seen, the latest first. -/
structure Timeline (σ : Type) where
  time : Nat
  server : σ
  seen : List Event

/-- The instant at which work will be abandoned, why, and which: the pieces of work that enclose
one another are counted from the outermost. -/
structure Limit where
  time : Nat
  cause : Interruption
  depth : Nat
deriving DecidableEq, Repr

namespace Limit

/-- The earlier of two limits; of two at one instant the first. -/
def earlier : Option Limit → Option Limit → Option Limit
  | none, m => m
  | l, none => l
  | some l, some m => if m.time < l.time then some m else some l

/-- The limits that a piece of work at a depth adds. -/
def ofWork (cancelAt deadline : Option Nat) (depth : Nat) : Option Limit :=
  earlier (cancelAt.map fun t => ⟨t, .cancelled, depth⟩)
    (deadline.map fun t => ⟨t, .deadline, depth⟩)

/-- Why a piece of work is abandoned before it starts. -/
def atStart? (cancelAt deadline : Option Nat) (now : Nat) : Option Interruption :=
  if cancelAt.any (· ≤ now) then some .cancelled
  else if deadline.any (· ≤ now) then some .deadline
  else none

/-- The instant of something that is due, if it comes before the limit. -/
def before? (limit : Option Limit) (due : Option Nat) : Option Nat :=
  due.filter fun t => limit.all fun l => t < l.time

end Limit

/-- How a run ends. -/
inductive Ending (α : Type) where
  /-- With the result. -/
  | done (a : α)
  /-- The enclosing work at the depth is abandoned. -/
  | abandoned (cause : Interruption) (depth : Nat)
  /-- A request is never answered, and nothing limits the wait for it. -/
  | stuck
  /-- The bound on the number of polls was reached. -/
  | exhausted
  /-- The program crashes. -/
  | crashed (message : String)

/-- The end of a run that waits for something that does not come before the limit. -/
def Ending.waiting {σ α : Type} (limit : Option Limit) (t : Timeline σ) :
    Ending α × Timeline σ :=
  match limit with
  | some l => (.abandoned l.cause l.depth, { t with time := l.time })
  | none => (.stuck, t)

/-- Goes on with a run that came to a result. -/
@[inline] def Ending.andThen {σ α β : Type} (e : Ending α × Timeline σ)
    (next : α → Timeline σ → Ending β × Timeline σ) : Ending β × Timeline σ :=
  match e with
  | (.done a, t) => next a t
  | (.abandoned cause depth, t) => (.abandoned cause depth, t)
  | (.stuck, t) => (.stuck, t)
  | (.exhausted, t) => (.exhausted, t)
  | (.crashed message, t) => (.crashed message, t)

/-- The outcome of a piece of work at a depth: its result, or why it was abandoned. -/
@[inline] def Ending.caught {σ β : Type} (depth : Nat) (e : Ending β × Timeline σ) :
    Ending (Except Interruption β) × Timeline σ :=
  match e with
  | (.done b, t) => (.done (.ok b), t)
  | (.abandoned cause d, t) =>
    -- an abandonment at a smaller depth is that of an enclosing piece of work
    if d = depth then (.done (.error cause), t) else (.abandoned cause d, t)
  | (.stuck, t) => (.stuck, t)
  | (.exhausted, t) => (.exhausted, t)
  | (.crashed message, t) => (.crashed message, t)

namespace Procedure

variable {σ : Type}

/-- Runs a procedure. The limit is that of all the enclosing work, whose depth is given. -/
def runWithin (server : Server σ) (cancelAt : Option Nat) :
    {α : Type} → Procedure α → Option Limit → Nat → Timeline σ → Ending α × Timeline σ
  | _, .pure a, _, _, t => (.done a, t)
  | _, .exhausted, _, _, t => (.exhausted, t)
  | _, .crash message, _, _, t => (.crashed message, t)
  | _, .tell m next, limit, depth, t =>
    next.runWithin server cancelAt limit depth { t with seen := .told t.time m :: t.seen }
  | _, .clock next, limit, depth, t => (next t.time).runWithin server cancelAt limit depth t
  | _, .sleep d next, limit, depth, t =>
    match Limit.before? limit (some (t.time + d)) with
    | some u => next.runWithin server cancelAt limit depth { t with time := u }
    | none => Ending.waiting limit t
  | _, .call r next, limit, depth, t =>
    let (delay, s) := server.receive t.time r t.server
    let t := { t with server := s, seen := .called t.time r :: t.seen }
    match Limit.before? limit (delay.map (t.time + ·)) with
    -- too late or never: the request was received, but is not carried out
    | none => Ending.waiting limit t
    | some u =>
      match server.answer u r t.server with
      | (some a, s) =>
        (next a).runWithin server cancelAt limit depth ⟨u, s, .answered u r a :: t.seen⟩
      | (none, s) => Ending.waiting limit ⟨u, s, t.seen⟩
  | _, .within deadline work next, limit, depth, t =>
    match Limit.atStart? cancelAt deadline t.time with
    | some cause => (next (.error cause)).runWithin server cancelAt limit depth t
    | none =>
      -- what encloses this work comes first where two limits fall on one instant
      let inner := Limit.earlier limit (Limit.ofWork cancelAt deadline depth)
      Ending.andThen
        (Ending.caught depth (work.runWithin server cancelAt inner (depth + 1) t))
        fun o t => (next o).runWithin server cancelAt limit depth t

/-- Runs a procedure that no other work encloses. -/
def run {α : Type} (server : Server σ) (cancelAt : Option Nat) (proc : Procedure α)
    (t : Timeline σ) : Ending α × Timeline σ :=
  proc.runWithin server cancelAt none 0 t

end Procedure

end OsdMigration
