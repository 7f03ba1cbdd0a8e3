import OsdMigration.Proofs.Course.Runs
import OsdMigration.Wait.OsdDown
import OsdMigration.Wait.Removability

set_option autoImplicit false

/-! # The bound on polls

With a larger bound on its polls a procedure does the same, except where a wait would have used up
the smaller one (`Procedure.Extends`). So the bound makes no difference to a run that does not come
to it.
-/

namespace OsdMigration

variable {σ α β : Type} {server : Server σ} {cancelAt : Option Nat}

namespace Procedure

/-- A procedure runs like another one, unless the polls of that one run out. -/
def Extends (server : Server σ) (cancelAt : Option Nat) (p q : Procedure α) : Prop :=
  ∀ limit depth t, (p.runWithin server cancelAt limit depth t).1 ≠ .exhausted →
    q.runWithin server cancelAt limit depth t = p.runWithin server cancelAt limit depth t

namespace Extends

theorem refl (p : Procedure α) : Extends server cancelAt p p := fun _ _ _ _ => rfl

theorem of_exhausted (q : Procedure α) : Extends server cancelAt .exhausted q :=
  fun _ _ _ h => absurd rfl h

theorem bind {p q : Procedure α} {f g : α → Procedure β} (hp : Extends server cancelAt p q)
    (hf : ∀ a, Extends server cancelAt (f a) (g a)) :
    Extends server cancelAt (p.bind f) (q.bind g) := by
  intro limit depth t h
  have hfirst := hp limit depth t
  rw [runWithin_bind] at h
  rw [runWithin_bind, runWithin_bind]
  generalize p.runWithin server cancelAt limit depth t = e at h hfirst
  obtain ⟨a | _ | _ | _ | _, u⟩ := e
  case done =>
    rw [hfirst nofun]
    exact hf a limit depth u h
  case exhausted => exact absurd rfl h
  all_goals
    rw [hfirst nofun]
    rfl

theorem within {deadline : Option Nat} {work other : Procedure β}
    {next : Except Interruption β → Procedure α} (hw : Extends server cancelAt work other) :
    Extends server cancelAt (.within deadline work next) (.within deadline other next) := by
  intro limit depth t h
  simp only [runWithin] at h ⊢
  cases hs : Limit.atStart? cancelAt deadline t.time with
  | some cause => rfl
  | none =>
      rw [hs] at h
      have hwork := hw (Limit.earlier limit (Limit.ofWork cancelAt deadline depth)) (depth + 1) t
      generalize work.runWithin server cancelAt
        (Limit.earlier limit (Limit.ofWork cancelAt deadline depth)) (depth + 1) t = e at h hwork
      obtain ⟨b | _ | _ | _ | _, u⟩ := e
      case exhausted => exact absurd rfl h
      all_goals rw [hwork (by simp)]

end Extends

end Procedure

namespace Job

/-- A job runs like another one, unless the polls of that one run out. -/
def Extends (server : Server σ) (cancelAt : Option Nat) (job other : Job α) : Prop :=
  job.attempt.Extends server cancelAt other.attempt

namespace Extends

theorem refl (job : Job α) : Extends server cancelAt job job := Procedure.Extends.refl _

theorem bind {job other : Job α} {f g : α → Job β} (hj : Extends server cancelAt job other)
    (hf : ∀ a, Extends server cancelAt (f a) (g a)) :
    Extends server cancelAt (job >>= f) (other >>= g) := by
  rw [Extends, attempt_bind, attempt_bind]
  refine Procedure.Extends.bind hj fun a => ?_
  cases a with
  | error e => exact .refl _
  | ok a => exact hf a

theorem after {f g : α → Job β} (job : Job α) (hf : ∀ a, Extends server cancelAt (f a) (g a)) :
    Extends server cancelAt (job >>= f) (job >>= g) := (refl job).bind hf

theorem during (step : String) {job other : Job α} (hj : Extends server cancelAt job other) :
    Extends server cancelAt (job.during step) (other.during step) :=
  Procedure.Extends.bind hj fun _ => .refl _

theorem guarded (p : Pacer) (stopped : Interruption → Failure) {work other : Procedure α}
    (hw : work.Extends server cancelAt other) :
    Extends server cancelAt (p.guarded stopped work) (p.guarded stopped other) :=
  Procedure.Extends.within hw

/-- A wait with more polls, each of which extends those of another wait, extends that wait. -/
theorem wait {ω : Type} (p : Pacer) (stopped : ω → Interruption → Failure)
    {poll other : ω → Job (Poll ω)} (hp : ∀ w, Extends server cancelAt (poll w) (other w))
    {n m : Nat} (hnm : n ≤ m) (w : ω) :
    Extends server cancelAt (p.wait stopped poll n w) (p.wait stopped other m w) := by
  induction n generalizing m w with
  | zero => exact Procedure.Extends.of_exhausted _
  | succ n ih =>
      cases m with
      | zero => exact absurd hnm (Nat.not_succ_le_zero n)
      | succ m =>
          refine (hp w).bind fun outcome => ?_
          cases outcome with
          | met => exact refl _
          | again w' passing =>
              exact after _ fun _ => after _ fun _ => ih (Nat.le_of_succ_le_succ hnm) w'

end Extends

end Job

/-! ## The waits -/

section

open Job (Extends)

variable {c : Context} {polls : Nat} (h : c.polls ≤ polls)

include h

theorem extends_awaitScale (name : String) (scale : Int) (timeout : Nat) :
    Extends server cancelAt (awaitScale c name scale timeout)
      (awaitScale { c with polls } name scale timeout) :=
  .after _ fun _ => .after _ fun p => .wait p _ (fun _ => .refl _) h _

theorem extends_ensureReady :
    Extends server cancelAt (Toolbox.ensureReady c) (Toolbox.ensureReady { c with polls }) := by
  have hup : Extends server cancelAt (Toolbox.awaitUp c) (Toolbox.awaitUp { c with polls }) :=
    .during _ (extends_awaitScale h _ _ _)
  refine .after _ fun existing => ?_
  cases existing with
  | some d =>
      simp only
      split
      · exact .refl _
      · exact .after _ fun _ => hup
  | none =>
      exact .after _ fun _ => .after _ fun _ => .after _ fun _ => .after _ fun _ =>
        hup.bind fun _ => .refl _

theorem extends_fetchStatus :
    Extends server cancelAt (Monitor.fetchStatus c) (Monitor.fetchStatus { c with polls }) :=
  ((extends_ensureReady h).during _).bind fun _ => .refl _

theorem extends_awaitHealth (timeout : Option Nat) :
    Extends server cancelAt (awaitHealth c timeout) (awaitHealth { c with polls } timeout) :=
  .after _ fun p => .after _ fun _ =>
    .wait p _ (fun _ => (Extends.guarded p _ (extends_fetchStatus h)).bind fun _ => .refl _) h _

theorem extends_awaitRemovable (osd : UInt32) (timeout : Option Nat) :
    Extends server cancelAt (awaitRemovable c osd timeout)
      (awaitRemovable { c with polls } osd timeout) :=
  .after _ fun p =>
    .wait p _ (fun _ => (Extends.guarded p _ (extends_fetchStatus h)).bind fun _ => .refl _) h _

theorem extends_awaitOsdDown (timeout : Option Nat) :
    Extends server cancelAt (awaitOsdDown c timeout) (awaitOsdDown { c with polls } timeout) :=
  .after _ fun p =>
    .wait p _ (fun _ => (Extends.guarded p _ (extends_fetchStatus h)).bind fun _ => .refl _) h _

end

end OsdMigration
