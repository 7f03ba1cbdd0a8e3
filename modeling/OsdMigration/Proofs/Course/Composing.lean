import OsdMigration.Monitor
import OsdMigration.Procedure.Lemmas
import OsdMigration.Proofs.Course.Job

set_option autoImplicit false

/-! # Properties of procedures that are put together

A property of procedures may be one that a procedure has as soon as its parts have it
(`Composing`). All that a wait does in its polls has such a property if the wait for the toolbox
has it, because that is the only wait within a poll.
-/

namespace OsdMigration

open Cluster (Request)

/-- A property that a procedure has if its parts have it. -/
structure Composing (P : {α : Type} → Procedure α → Prop) : Prop where
  pure : ∀ {α : Type} (a : α), P (.pure a)
  tell : ∀ {α : Type} (m : Message) (a : α), P (.tell m (.pure a))
  sleep : ∀ {α : Type} (duration : Nat) (a : α), P (.sleep duration (.pure a))
  call : ∀ r : Request, P (.call r .pure)
  bind : ∀ {α β : Type} {p : Procedure α} {f : α → Procedure β}, P p → (∀ a, P (f a)) →
    P (p.bind f)
  within : ∀ {α β : Type} (deadline : Option Nat) {work : Procedure β}
    {next : Except Interruption β → Procedure α}, P work → (∀ o, P (next o)) →
    P (.within deadline work next)

namespace Composing

variable {P : {α : Type} → Procedure α → Prop} {α β : Type} (h : Composing P)

include h

theorem andThen {job : Job α} {f : α → Job β} (hj : P job.attempt) (hf : ∀ a, P (f a).attempt) :
    P (job >>= f).attempt := by
  rw [Job.attempt_bind]
  refine h.bind hj fun a => ?_
  cases a with
  | error e => exact h.pure _
  | ok a => exact hf a

theorem map {p : Procedure α} (hp : P p) (f : α → β) : P (p.bind fun a => .pure (f a)) :=
  h.bind hp fun _ => h.pure _

theorem during (step : String) {job : Job α} (hj : P job.attempt) : P (job.during step).attempt :=
  h.map hj _

theorem ofAttempt (a : Attempt α) : P (Job.ofAttempt a).attempt := h.pure a

theorem report (text : String) : P (Job.report text).attempt := h.tell _ _

theorem ask (r : Request) : P (Job.ask r).attempt := h.call r

theorem guard (p : Pacer) {work : Procedure α} (hw : P work) : P (p.guard work) :=
  h.within _ hw fun _ => h.pure _

theorem guarded (p : Pacer) (stopped : Interruption → Failure) {work : Procedure α}
    (hw : P work) : P (p.guarded stopped work).attempt := h.map (h.guard p hw) _

/-! ## What is done in a poll -/

variable {c : Context}

theorem ensureReady (hup : P (Toolbox.awaitUp c).attempt) : P (Toolbox.ensureReady c).attempt := by
  refine h.andThen (h.during _ (h.ask _)) fun existing => ?_
  cases existing with
  | some d =>
      simp only
      split
      · exact h.ofAttempt (.ok ())
      · exact h.andThen (h.during _ (h.ask _)) fun _ => hup
  | none =>
      refine h.andThen (h.report _) fun _ => h.andThen (h.during _ ?_) fun image =>
        h.andThen (h.during _ (h.ask _)) fun _ => h.andThen (h.report _) fun _ =>
          h.andThen hup fun _ => h.report _
      refine h.andThen (h.ask _) fun d => ?_
      cases d with
      | none => exact h.ofAttempt _
      | some d =>
          simp only
          split
          · exact h.ofAttempt (.ok _)
          · exact h.ofAttempt _

theorem run (s : Settings) (argv : List String) : P (Toolbox.run s argv).attempt := by
  refine h.andThen (h.during _ (h.ask _)) fun pods => h.andThen (h.ofAttempt _)
    fun ⟨pod, container⟩ => h.andThen ?_ fun answer => h.andThen (h.ofAttempt answer)
      fun output => ?_
  · exact h.within _ (h.call _) fun _ => h.pure _
  · split
    · exact h.ofAttempt (.ok _)
    · exact h.ofAttempt _

theorem fetchStatus (hup : P (Toolbox.awaitUp c).attempt) : P (Monitor.fetchStatus c).attempt :=
  h.andThen (h.during _ (h.ensureReady hup)) fun _ =>
    h.andThen (h.during _ (h.run _ _)) fun _ => h.during _ (h.ofAttempt _)

theorem askRemovability (osd : UInt32) : P (Monitor.askRemovability c osd).attempt :=
  h.map (h.map (h.run _ _) Monitor.Answer.ofOutcome) _

end Composing

end OsdMigration
