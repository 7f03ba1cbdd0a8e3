import OsdMigration.Proofs.Course.Smooth
import OsdMigration.Rehearsal

set_option autoImplicit false

/-! # Jobs on a cluster that is left alone

A rehearsal without a plan and without changes to come is a cluster in memory that does what it is
asked. On such a cluster a job brings about its result and another cluster (`Brings`); what is noted
in the log on the way does not count. A wait that wants several polls in a row brings about its end,
if each poll does what is wanted of it and there is time for all of them (`Brings.wait_streak`).
-/

namespace OsdMigration

open Ceph (Status)
open Cluster (Request)

/-- A cluster that is left alone. -/
def Rehearsal.calm (m : MiniCluster) (log : List Request)
    (underWay : Option ((k : Request.Kind) × Plan k.Reply)) : Rehearsal where
  cluster := { m with log }
  script := .empty
  underWay := underWay

namespace Job

variable {α β : Type}

/-- Left alone with a cluster, a job that begins at an instant comes to a result by a later one,
and makes another cluster of it. -/
def Brings (job : Job α) (now : Nat) (m : MiniCluster) (a : α) (later : Nat)
    (m' : MiniCluster) : Prop :=
  ∀ log underWay, ∃ log' underWay' rs,
    Smooth Rehearsal.server job now (.calm m log underWay) a later (.calm m' log' underWay') rs

namespace Brings

variable {now later last : Nat} {m m' m'' : MiniCluster}

/-- The run of the job. -/
theorem run {job : Job α} {a : α} (h : Brings job now m a later m') (log : List Request)
    (underWay : Option ((k : Request.Kind) × Plan k.Reply)) :
    ∃ log' underWay' seen, job.attempt.run Rehearsal.server none ⟨now, .calm m log underWay, []⟩ =
      (.done (.ok a), ⟨later, .calm m' log' underWay', seen⟩) := by
  obtain ⟨log', underWay', rs, h⟩ := h log underWay
  obtain ⟨added, _, _, hrun⟩ := h.run []
  exact ⟨log', underWay', _, hrun⟩

theorem bind {job : Job α} {f : α → Job β} {a : α} {b : β} (hj : Brings job now m a later m')
    (hf : Brings (f a) later m' b last m'') : Brings (job >>= f) now m b last m'' := by
  intro log underWay
  obtain ⟨log', underWay', rs, hj⟩ := hj log underWay
  obtain ⟨log'', underWay'', rs', hf⟩ := hf log' underWay'
  exact ⟨log'', underWay'', rs ++ rs', hj.bind hf⟩

/-- A job that asks nothing of the cluster. -/
theorem of_smooth {job : Job α} {a : α}
    (h : ∀ s, Smooth Rehearsal.server job now s a later s []) : Brings job now m a later m :=
  fun log underWay => ⟨log, underWay, [], h _⟩

theorem pure (a : α) : Brings (Pure.pure a : Job α) now m a now m := of_smooth fun _ => .pure a

theorem ofAttempt {o : Attempt α} {a : α} (h : o = .ok a) :
    Brings (Job.ofAttempt o) now m a now m := of_smooth fun _ => .ofAttempt h

theorem tell (text : Message) : Brings (Job.tell text) now m () now m :=
  of_smooth fun _ => .tell text

theorem report (text : String) : Brings (Job.report text) now m () now m := tell _

theorem start (interval : Nat) {timeout : Option Nat} (h : Clock.Reaches now timeout) :
    Brings (Pacer.start interval timeout) now m ⟨interval, timeout.map (now + ·)⟩ now m :=
  of_smooth fun _ => .start interval h

theorem map {job : Job α} {a : α} {b : β} {f : Attempt α → Attempt β}
    (h : Brings job now m a later m') (hf : f (.ok a) = .ok b) :
    Brings (.mk (job.attempt.bind fun o => .pure (f o))) now m b later m' := by
  intro log underWay
  obtain ⟨log', underWay', rs, h⟩ := h log underWay
  exact ⟨log', underWay', rs, h.map hf⟩

theorem during {job : Job α} {a : α} (step : String) (h : Brings job now m a later m') :
    Brings (job.during step) now m a later m' := h.map rfl

theorem guarded {p : Pacer} {stopped : Interruption → Failure} {job : Job α} {a : α}
    (hd : ∀ d ∈ p.deadline, later < d) (h : Brings job now m a later m') :
    Brings (p.guarded stopped job.attempt) now m (.ok a) later m' := by
  intro log underWay
  obtain ⟨log', underWay', rs, h⟩ := h log underWay
  exact ⟨log', underWay', rs, h.guarded hd⟩

theorem pause {p : Pacer} {stopped : Interruption → Failure}
    (hd : ∀ d ∈ p.deadline, now + p.interval < d) :
    Brings (p.guarded stopped (.sleep p.interval (.pure ()))) now m () (now + p.interval) m :=
  of_smooth fun _ => .pause hd

/-- A request does to the cluster what serving it does. -/
theorem ask {r : Request} {a : r.Reply}
    (h : ∀ log, ∃ log', ({ m with log } : MiniCluster).serve r =
      (some (.ok a), { m' with log := log' })) : Brings (Job.ask r) now m a now m' := by
  intro log underWay
  obtain ⟨log', h⟩ := h log
  let sent : Option ((k : Request.Kind) × Plan k.Reply) := some ⟨r.kind, .forward 0⟩
  have hreceive : Rehearsal.server.receive now r (.calm m log underWay) =
      (some 0, .calm m log sent) := rfl
  refine ⟨log', sent, _, Smooth.ask hreceive ?_⟩
  have hadvance : (Rehearsal.calm m log sent).advance now = .calm m log sent := rfl
  simp only [Rehearsal.server, hadvance]
  simp only [Rehearsal.calm, sent, dite_true, h]

/-- A request that only asks. -/
theorem ask_same {r : Request} {a : r.Reply}
    (h : ∀ log, ({ m with log } : MiniCluster).serve r = (some (.ok a), { m with log })) :
    Brings (Job.ask r) now m a now m := ask fun log => ⟨log, h log⟩

/-! ## Waits -/

section

variable {ω : Type} {p : Pacer} {stopped : ω → Interruption → Failure} {poll : ω → Job (Poll ω)}

/-- A wait whose first poll meets its condition. -/
theorem wait {n : Nat} {w : ω} (h : Brings (poll w) now m .met later m') :
    Brings (p.wait stopped poll (n + 1) w) now m () later m' := by
  rw [Pacer.wait]
  exact h.bind (pure ())

/-- A wait whose first poll does not. -/
theorem again {n : Nat} {w w' : ω} {passing : Option String}
    (hpoll : Brings (poll w) now m (.again w' passing) later m')
    (hd : ∀ d ∈ p.deadline, later + p.interval < d)
    (hrest : Brings (p.wait stopped poll n w') (later + p.interval) m' () last m'') :
    Brings (p.wait stopped poll (n + 1) w) now m () last m'' := by
  rw [Pacer.wait]
  have htell : Brings (passing.forM fun text => Job.tell (.passing text)) later m' () later m' := by
    cases passing with
    | none => exact pure ()
    | some text => exact tell _
  exact hpoll.bind (htell.bind ((pause hd).bind hrest))

/-- A wait that needs so many polls more ends with the last of them, if its deadline does not come
before. -/
theorem wait_streak (missing : Nat → ω → Prop)
    (hmet : ∀ t w, missing 0 w → (∀ d ∈ p.deadline, t < d) → Brings (poll w) t m .met t m)
    (hagain : ∀ t w r, missing (r + 1) w → (∀ d ∈ p.deadline, t < d) →
      ∃ w' passing, missing r w' ∧ Brings (poll w) t m (.again w' passing) t m)
    {r n : Nat} (hn : r < n) {w : ω} (hw : missing r w)
    (hd : ∀ d ∈ p.deadline, now + r * p.interval < d) :
    Brings (p.wait stopped poll n w) now m () (now + r * p.interval) m := by
  obtain ⟨n, rfl⟩ : ∃ k, n = k + 1 := ⟨n - 1, by omega⟩
  induction r generalizing now w n with
  | zero =>
      rw [Nat.zero_mul, Nat.add_zero] at hd ⊢
      exact wait (hmet now w hw hd)
  | succ r ih =>
      have htime : now + (r + 1) * p.interval = now + p.interval + r * p.interval := by
        rw [Nat.succ_mul]
        omega
      rw [htime] at hd ⊢
      have hnow : ∀ d ∈ p.deadline, now < d := fun d hm => by
        have := hd d hm
        omega
      have hpause : ∀ d ∈ p.deadline, now + p.interval < d := fun d hm => by
        have := hd d hm
        omega
      obtain ⟨w', passing, hw', hpoll⟩ := hagain now w r hw hnow
      obtain ⟨n, rfl⟩ : ∃ k, n = k + 1 := ⟨n - 1, by omega⟩
      exact hpoll.again hpause (ih hw' hd n (by omega))

end

end Brings

end Job

end OsdMigration
