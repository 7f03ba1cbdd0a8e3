import OsdMigration.Procedure.Run
import OsdMigration.Wait.Pacer

set_option autoImplicit false

/-! # Pacing

A pacer on its own: pauses and pieces of work in a row, with the instant at which each of them
ends.
-/

namespace OsdMigration

/-- A piece of work. -/
inductive Exertion where
  | ready
  | lasting (duration : Nat)
  | endless
deriving DecidableEq, Repr

/-- Something to be done with a pacer. -/
inductive Beat where
  | tick
  | guard (work : Exertion)
deriving DecidableEq, Repr

/-- The work as a procedure. Work without an end waits for an answer that never comes. -/
def Exertion.work : Exertion → Procedure Unit
  | .ready => .pure ()
  | .lasting d => .sleep d (.pure ())
  | .endless => .call .listNodes fun _ => .pure ()

/-- Does one thing. -/
def Beat.perform (p : Pacer) : Beat → Procedure (Except Interruption Unit)
  | .tick => p.tick
  | .guard e => p.guard e.work

/-- Does one thing after another; each result comes with its instant. -/
def performAll (p : Pacer) : List Beat → Procedure (List (Except Interruption Unit × Nat))
  | [] => .pure []
  | b :: rest =>
    (b.perform p).bind fun o =>
      .clock fun now => (performAll p rest).bind fun os => .pure ((o, now) :: os)

/-- The server that never answers. -/
def silence : Server Unit where
  receive _ _ s := (none, s)
  answer _ _ s := (none, s)

/-- The results of a pacer that starts at zero. -/
def pace (interval : Nat) (timeout cancelAt : Option Nat) (beats : List Beat) :
    Ending (List (Except Interruption Unit × Nat)) :=
  ((performAll ⟨interval, timeout⟩ beats).run silence cancelAt ⟨0, (), []⟩).1

end OsdMigration
