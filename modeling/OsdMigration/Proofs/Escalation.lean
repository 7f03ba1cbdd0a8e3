import Mathlib.Control.Monad.Basic
import OsdMigration.Proofs.Budget
import OsdMigration.Proofs.Course.Guarded
import OsdMigration.Wait.OsdDown

set_option autoImplicit false

/-! # Waits within waits

A report of the cluster may take a wait of its own: that for the toolbox to be up. When that wait
loses patience, the wait that asked for the report counts this as one failure among others, and goes
on unless it has lost patience too (`lost_patience_counts`).

The three waits that ask for reports differ in what they do with one and agree in how they count
those they do not get (`StatusWait`). Their runs are followed from poll to poll (`Comes`), with the
number of failures just before; the budget that a wait remembers is that number (`Comes.budget_eq`).
-/

namespace OsdMigration

open Ceph (Status)
open Cluster (Request)
open Job (Course)

/-! ## Waits for a report -/

/-- A wait whose polls begin with a report of the cluster: what it does with the report, and how it
counts those that it could not get. -/
structure StatusWait (c : Context) where
  /-- What the wait remembers. -/
  Memory : Type
  /-- What is said at first. -/
  opening : Job Unit
  stopped : Memory → Interruption → Failure
  /-- What follows a report, or the failure to get one. -/
  after : Pacer → Memory → Attempt Status → Job (Poll Memory)
  /-- The patience with failures to get a report. -/
  budget : Memory → Budget
  start : Memory
  /-- What is remembered once a report could not be got. -/
  failed : Memory → Budget → Memory
  budget_start : budget start = c.settings.budget "fetch ceph status"
  budget_failed : ∀ m b, budget (failed m b) = b
  after_error : ∀ p m f, after p m (.error f) =
    Job.ofAttempt (((budget m).spend f).map fun b => .again (failed m b) none)
  after_ok : ∀ p m status seen m' passing,
    Course (after p m (.ok status)) seen (some (.ok (.again m' passing))) →
      budget m' = (budget m).succeed

namespace StatusWait

variable {c : Context} (w : StatusWait c)

/-- Asking for the report. -/
def fetch (p : Pacer) (m : w.Memory) : Job (Attempt Status) :=
  p.guarded (w.stopped m) (Monitor.fetchStatus c).attempt

/-- One poll. -/
def poll (p : Pacer) (m : w.Memory) : Job (Poll w.Memory) := w.fetch p m >>= w.after p m

/-- The wait from a poll on. -/
def polls (p : Pacer) (n : Nat) (m : w.Memory) : Job Unit := p.wait w.stopped (w.poll p) n m

/-- The pause behind a poll. -/
def pause (p : Pacer) (m : w.Memory) : Job Unit :=
  p.guarded (w.stopped m) (.sleep p.interval (.pure ()))

/-- What comes between a poll and the next. -/
def between (p : Pacer) (m : w.Memory) (passing : Option String) : Job Unit := do
  passing.forM fun text => Job.tell (.passing text)
  w.pause p m

/-- The whole wait. -/
def await (timeout : Option Nat) : Job Unit := do
  let p ← Pacer.start c.settings.interval.toNat timeout
  w.opening
  w.polls p c.polls w.start

theorem polls_succ (p : Pacer) (n : Nat) (m : w.Memory) :
    w.polls p (n + 1) m = w.poll p m >>= fun outcome =>
      match outcome with
      | .met => pure ()
      | .again m' passing => w.between p m' passing >>= fun _ => w.polls p n m' := by
  unfold polls
  rw [Pacer.wait]
  congr 1
  funext outcome
  cases outcome with
  | met => rfl
  | again m' passing => simp only [between, pause, bind_assoc]

end StatusWait

section

variable (c : Context)

/-- Waiting for health. -/
def StatusWait.health : StatusWait c where
  Memory := HealthWait
  opening := Job.report "Waiting for Rook-Ceph to be healthy"
  stopped := HealthWait.stopped
  after _ m answer := Job.ofAttempt
    (HealthWait.observe (confirmations c.settings.healthConfirmations) m answer)
  budget := HealthWait.budget
  start := ⟨c.settings.budget "fetch ceph status", 0, ""⟩
  failed m budget := { m with budget, streak := 0 }
  budget_start := rfl
  budget_failed _ _ := rfl
  after_error _ _ _ := rfl
  after_ok p m status seen m' passing h := by
    replace h := Option.some.inj h.2
    simp only [HealthWait.observe] at h
    split at h
    · split at h
      · cases h
      · cases h
        rfl
    · cases h
      rfl

/-- What follows a report in a wait until an OSD can go leaves the patience with reports whole. -/
theorem observe_removal_again {osd : UInt32} {wanted : Nat} {w w' : RemovalWait}
    (finding : RemovalWait.Finding) {passing : Option String} (hf : ∀ f, finding ≠ .blind f)
    (h : RemovalWait.observe osd wanted w finding = .ok (.again w' passing)) :
    w'.health = w.health.succeed := by
  unfold RemovalWait.observe at h
  split at h
  · exact absurd rfl (hf _)
  · cases h
    rfl
  · simp only at h
    split at h
    · cases h
    · cases h
      rfl
  · cases h
    rfl
  all_goals
    obtain ⟨safety, _, h⟩ := bind_ok h
    cases h
    rfl

/-- Waiting until an OSD can go. -/
def StatusWait.removability (osd : UInt32) : StatusWait c where
  Memory := RemovalWait
  opening := pure ()
  stopped := RemovalWait.stopped osd
  after p m
    | .error f => Job.ofAttempt (RemovalWait.observe osd
        (confirmations c.settings.safeConfirmations) m (.blind f))
    | .ok status =>
      if status.verdict.1 then do
        let answer ← p.guarded (RemovalWait.stopped osd m) (Monitor.askRemovability c osd).attempt
        Job.ofAttempt (RemovalWait.observe osd (confirmations c.settings.safeConfirmations) m
          (.asked answer))
      else Job.ofAttempt (RemovalWait.observe osd (confirmations c.settings.safeConfirmations) m
        (.unhealthy status))
  budget := RemovalWait.health
  start := ⟨c.settings.budget "fetch ceph status",
    c.settings.budget "check if the OSD is safe to destroy", 0, ""⟩
  failed m health := { m with health, streak := 0 }
  budget_start := rfl
  budget_failed _ _ := rfl
  after_error _ _ _ := rfl
  after_ok p m status seen m' passing h := by
    replace h : Course (if status.verdict.1 then _ else _) seen _ := h
    split at h
    · obtain ⟨answer, _, _, _, _, h⟩ := (Job.course_bind_ok ..).1 h
      exact observe_removal_again (.asked answer) nofun (Option.some.inj h.2).symm
    · exact observe_removal_again (.unhealthy status) nofun (Option.some.inj h.2).symm

/-- Waiting for an OSD to be down. -/
def StatusWait.osdDown : StatusWait c where
  Memory := DownWait
  opening := pure ()
  stopped := DownWait.stopped
  after _ m answer := Job.ofAttempt (DownWait.observe m answer)
  budget := DownWait.budget
  start := ⟨c.settings.budget "fetch ceph status"⟩
  failed _ budget := ⟨budget⟩
  budget_start := rfl
  budget_failed _ _ := rfl
  after_error _ _ _ := rfl
  after_ok p m status seen m' passing h := by
    replace h := Option.some.inj h.2
    simp only [DownWait.observe] at h
    split at h
    · cases h
    · cases h
      rfl

theorem await_health : (StatusWait.health c).await = awaitHealth c := rfl

theorem await_removability (osd : UInt32) :
    (StatusWait.removability c osd).await = awaitRemovable c osd := rfl

theorem await_osdDown : (StatusWait.osdDown c).await = awaitOsdDown c := rfl

end

/-! ## Runs that go on -/

section

variable {σ α β : Type} {server : Server σ} {cancelAt : Option Nat} {t u v : Timeline σ}

theorem seen_append_bind (server : Server σ) (cancelAt : Option Nat) (job : Job α)
    (f : α → Job β) (t : Timeline σ) :
    ∃ more, ((job >>= f).attempt.run server cancelAt t).2.seen =
      more ++ (job.attempt.run server cancelAt t).2.seen := by
  rw [Job.run_bind]
  rcases job.attempt.run server cancelAt t with ⟨a | _ | _ | _ | _, u⟩
  · obtain ⟨more, hs, _⟩ :=
      Procedure.course_runWithin server cancelAt (Job.next f a) none 0 u
    exact ⟨more.reverse, hs⟩
  all_goals exact ⟨[], rfl⟩

/-- A request is sent before anything else happens. -/
theorem called_first (r : Cluster.Request) (next : Attempt r.Reply → Procedure α)
    (limit : Option Limit) (depth : Nat) (t : Timeline σ) :
    ∃ more, ((Procedure.call r next).runWithin server cancelAt limit depth t).2.seen =
      more ++ .called t.time r :: t.seen := by
  simp only [Procedure.runWithin]
  split
  · exact ⟨[], (Procedure.seen_waiting limit _).1⟩
  · rename_i w _
    split
    · rename_i a s _
      obtain ⟨more, hs, _⟩ := Procedure.course_runWithin server cancelAt (next a) limit depth
        ⟨w, s, .answered w r a :: .called t.time r :: t.seen⟩
      exact ⟨more.reverse ++ [.answered w r a], by simp [hs]⟩
    · exact ⟨[], (Procedure.seen_waiting limit _).1⟩

end

/-! ## From poll to poll -/

namespace StatusWait

variable {σ : Type} (server : Server σ) (cancelAt : Option Nat) {c : Context} (w : StatusWait c)
  (timeout : Option Nat) (t₀ : Timeline σ)

/-- The pacer of a wait that starts at an instant. -/
def pacer (c : Context) (timeout : Option Nat) (now : Nat) : Pacer :=
  ⟨c.settings.interval.toNat, timeout.map (now + ·)⟩

/-- A run of the wait comes to a poll: so many polls are left, so many failures to get a report have
come in a row just before, and this is remembered. -/
inductive Comes : Nat → Nat → w.Memory → Timeline σ → Prop
  | start {t : Timeline σ} (reaches : Clock.Reaches t₀.time timeout)
      (opened : w.opening.attempt.run server cancelAt t₀ = (.done (.ok ()), t)) :
      Comes c.polls 0 w.start t
  | failed {n k : Nat} {m m' : w.Memory} {f : Failure} {passing : Option String}
      {t u u' v : Timeline σ} (poll : Comes (n + 1) k m t)
      (missed : (w.fetch (pacer c timeout t₀.time) m).attempt.run server cancelAt t =
        (.done (.ok (.error f)), u))
      (counted : (w.after (pacer c timeout t₀.time) m (.error f)).attempt.run server cancelAt u =
        (.done (.ok (.again m' passing)), u'))
      (paused : (w.between (pacer c timeout t₀.time) m' passing).attempt.run server cancelAt u' =
        (.done (.ok ()), v)) :
      Comes n (k + 1) m' v
  | read {n k : Nat} {m m' : w.Memory} {status : Status} {passing : Option String}
      {t u u' v : Timeline σ} (poll : Comes (n + 1) k m t)
      (reported : (w.fetch (pacer c timeout t₀.time) m).attempt.run server cancelAt t =
        (.done (.ok (.ok status)), u))
      (unmet : (w.after (pacer c timeout t₀.time) m (.ok status)).attempt.run server cancelAt u =
        (.done (.ok (.again m' passing)), u'))
      (paused : (w.between (pacer c timeout t₀.time) m' passing).attempt.run server cancelAt u' =
        (.done (.ok ()), v)) :
      Comes n 0 m' v

variable {server} {cancelAt} {w} {timeout} {t₀}

/-- A poll after which the wait goes on. -/
theorem run_polls_again {p : Pacer} {n : Nat} {m m' : w.Memory} {a : Attempt Status}
    {passing : Option String} {t u u' v : Timeline σ}
    (hf : (w.fetch p m).attempt.run server cancelAt t = (.done (.ok a), u))
    (ha : (w.after p m a).attempt.run server cancelAt u = (.done (.ok (.again m' passing)), u'))
    (hb : (w.between p m' passing).attempt.run server cancelAt u' = (.done (.ok ()), v)) :
    (w.polls p (n + 1) m).attempt.run server cancelAt t =
      (w.polls p n m').attempt.run server cancelAt v := by
  have hpoll : (w.poll p m).attempt.run server cancelAt t =
      (.done (.ok (.again m' passing)), u') := by
    rw [poll, Job.run_bind_of_ok hf, ha]
  rw [polls_succ, Job.run_bind_of_ok hpoll, Job.run_bind_of_ok hb]

namespace Comes

variable {n k : Nat} {m : w.Memory} {f : Failure} {t u : Timeline σ}

/-- The run of the whole wait is the run from there. -/
theorem run_eq (h : Comes server cancelAt w timeout t₀ n k m t) :
    (w.await timeout).attempt.run server cancelAt t₀ =
      (w.polls (pacer c timeout t₀.time) n m).attempt.run server cancelAt t := by
  induction h with
  | start reaches opened =>
      have hstart : (Pacer.start c.settings.interval.toNat timeout).attempt.run server cancelAt t₀ =
        (.done (.ok (pacer c timeout t₀.time)), t₀) := Job.run_start reaches
      rw [await, Job.run_bind_of_ok hstart, Job.run_bind_of_ok opened]
  | failed _ missed counted paused ih => rw [ih, run_polls_again missed counted paused]
  | read _ reported unmet paused ih => rw [ih, run_polls_again reported unmet paused]

/-- The patience of the wait counts the failures in a row. -/
theorem budget_eq (h : Comes server cancelAt w timeout t₀ n k m t) :
    (w.budget m).InUse "fetch ceph status" c.settings.patience.toNat ∧ (w.budget m).inRow = k := by
  -- a failure adds one, a report starts again
  induction h with
  | start _ opened =>
      rw [w.budget_start]
      exact ⟨Budget.inUse_budget .., rfl⟩
  | failed _ missed counted paused ih =>
      rename_i m m' f _ _ _ _ _ _
      rw [w.after_error] at counted
      cases hs : (w.budget m).spend f with
      | error e =>
          rw [hs] at counted
          cases counted
      | ok b =>
          rw [hs] at counted
          cases counted
          rw [w.budget_failed]
          refine ⟨ih.1.spend hs, ?_⟩
          rw [(Budget.spend_ok hs).2, ih.2]
  | read _ reported unmet paused ih =>
      obtain ⟨_, _, hc⟩ := Job.course_run_ok unmet
      rw [w.after_ok _ _ _ _ _ _ hc]
      exact ⟨ih.1.succeed, rfl⟩

/-- The failure that fills the budget ends the wait. -/
theorem last (h : Comes server cancelAt w timeout t₀ (n + 1) k m t)
    (hf : (w.fetch (pacer c timeout t₀.time) m).attempt.run server cancelAt t =
      (.done (.ok (.error f)), u)) (hr : f.isRetryable = true)
    (hk : k + 1 = max c.settings.patience.toNat 1) :
    (w.await timeout).attempt.run server cancelAt t₀ =
      (.done (.error (.repeated "fetch ceph status" (k + 1) f)), u) := by
  obtain ⟨hb, hrow⟩ := h.budget_eq
  have hl : (w.budget m).limit ≤ (w.budget m).inRow + 1 := by
    rw [hb.limit_eq, hrow]
    omega
  have hpoll : (w.poll (pacer c timeout t₀.time) m).attempt.run server cancelAt t =
      (.done (.error (.repeated "fetch ceph status" (k + 1) f)), u) := by
    rw [poll, Job.run_bind_of_ok hf, w.after_error, Budget.spend_of_retryable hr, if_pos hl,
      hb.operation_eq, hrow]
    rfl
  rw [h.run_eq, polls_succ, Job.run_bind_of_error hpoll]

/-- Any other failure is only counted. -/
theorem counted (h : Comes server cancelAt w timeout t₀ (n + 1) k m t) (hr : f.isRetryable = true)
    (hk : k + 1 < max c.settings.patience.toNat 1) (u : Timeline σ) :
    ∃ m', (w.after (pacer c timeout t₀.time) m (.error f)).attempt.run server cancelAt u =
      (.done (.ok (.again m' none)), u) := by
  obtain ⟨hb, hrow⟩ := h.budget_eq
  have hl : ¬ (w.budget m).limit ≤ (w.budget m).inRow + 1 := by
    rw [hb.limit_eq, hrow]
    omega
  rw [w.after_error, Budget.spend_of_retryable hr, if_neg hl]
  exact ⟨_, rfl⟩

end Comes

/-- A poll begins with a look at the deployment of the toolbox. -/
theorem called_polls {p : Pacer} {n : Nat} {m : w.Memory} {t : Timeline σ}
    (h : p.Open cancelAt t.time) :
    ∃ more, ((w.polls p (n + 1) m).attempt.run server cancelAt t).2.seen =
      more ++ .called t.time (.getDeployment c.settings.space c.settings.toolbox) :: t.seen := by
  have hfetch : ∃ more, ((w.fetch p m).attempt.run server cancelAt t).2.seen =
      more ++ .called t.time (.getDeployment c.settings.space c.settings.toolbox) :: t.seen := by
    obtain ⟨next, hnext⟩ : ∃ next, (Monitor.fetchStatus c).attempt =
        .call (.getDeployment c.settings.space c.settings.toolbox) next := ⟨_, rfl⟩
    rw [fetch, run_guarded_open_snd _ h, hnext]
    exact called_first ..
  obtain ⟨first, hfetch⟩ := hfetch
  obtain ⟨second, hpoll⟩ := seen_append_bind server cancelAt (w.fetch p m) (w.after p m) t
  obtain ⟨third, hpolls⟩ : ∃ more, ((w.polls p (n + 1) m).attempt.run server cancelAt t).2.seen =
      more ++ ((w.poll p m).attempt.run server cancelAt t).2.seen := by
    rw [polls_succ]
    exact seen_append_bind ..
  refine ⟨third ++ second ++ first, ?_⟩
  rw [hpolls, poll, hpoll, hfetch, List.append_assoc, List.append_assoc]

/-! ## Patience lost on the way -/

variable (server) (cancelAt) (w) (timeout) (t₀)

/-- At a poll of a run, with so many more to come and after so many failures in a row, a failure is
got in place of the report. -/
def Misses (n k : Nat) (f : Failure) (u : Timeline σ) : Prop :=
  ∃ m t, Comes server cancelAt w timeout t₀ (n + 1) k m t ∧
    (w.fetch (pacer c timeout t₀.time) m).attempt.run server cancelAt t = (.done (.ok (.error f)), u)

variable {server} {cancelAt} {w} {timeout} {t₀}

/-- Between a failure that is counted and the next poll there is only the pause. -/
theorem run_counted {n k : Nat} {m : w.Memory} {f : Failure} {t u : Timeline σ}
    (h : Comes server cancelAt w timeout t₀ (n + 1) k m t)
    (hf : (w.fetch (pacer c timeout t₀.time) m).attempt.run server cancelAt t =
      (.done (.ok (.error f)), u)) (hr : f.isRetryable = true)
    (hk : k + 1 < max c.settings.patience.toNat 1) :
    ∃ m', (∀ v, (w.pause (pacer c timeout t₀.time) m').attempt.run server cancelAt u =
        (.done (.ok ()), v) → Comes server cancelAt w timeout t₀ n (k + 1) m' v) ∧
      (w.await timeout).attempt.run server cancelAt t₀ =
        (w.pause (pacer c timeout t₀.time) m' >>= fun _ =>
          w.polls (pacer c timeout t₀.time) n m').attempt.run server cancelAt u := by
  obtain ⟨m', ha⟩ := h.counted hr hk u
  refine ⟨m', fun v hp => .failed h hf ha hp, ?_⟩
  have hpoll : (w.poll (pacer c timeout t₀.time) m).attempt.run server cancelAt t =
      (.done (.ok (.again m' none)), u) := by
    rw [poll, Job.run_bind_of_ok hf, ha]
  rw [h.run_eq, polls_succ, Job.run_bind_of_ok hpoll]
  rfl

/-- A wait that is to go on does not end where it stands. -/
theorem ne_of_counted {p : Pacer} {n : Nat} {m : w.Memory} {u : Timeline σ}
    (h : p.Open cancelAt u.time) (f : Failure) :
    (w.pause p m >>= fun _ => w.polls p n m).attempt.run server cancelAt u ≠
      (.done (.error f), u) := by
  intro hr
  rcases hp : (w.pause p m).attempt.run server cancelAt u with ⟨(e | ⟨⟩) | _ | _ | _ | _, v⟩
  · rw [Job.run_bind_of_error hp] at hr
    obtain rfl := (Prod.mk.inj hr).2
    exact absurd (run_pause_error h hp) (Nat.lt_irrefl _)
  · have hopen : p.Open cancelAt v.time := Job.run_guarded_ok hp
    rw [Job.run_bind_of_ok hp] at hr
    cases n with
    | zero => cases hr
    | succ n =>
        -- another request has been seen
        obtain ⟨more, hs⟩ : ∃ more, ((w.polls p (n + 1) m).attempt.run server cancelAt v).2.seen =
            more ++ .called v.time (.getDeployment c.settings.space c.settings.toolbox) :: v.seen :=
          called_polls hopen
        rw [hr, run_pause_ok hp] at hs
        have hlength := congrArg List.length hs
        simp only [List.length_append, List.length_cons] at hlength
        omega
  all_goals
    rw [Job.run_bind, hp] at hr
    cases hr

end StatusWait

/-! ## The waits of a removal -/

section

variable {σ : Type} (server : Server σ) (cancelAt : Option Nat) {c : Context}

/-- What becomes of a run of a wait when, at a poll that ends at `u` with `n` more to come and after
`k` failures in a row, the wait for the toolbox loses patience. -/
structure CountedOnce (w : StatusWait c) (timeout : Option Nat) (t₀ : Timeline σ) (job : Job Unit)
    (n k : Nat) (operation : String) (attempts : Nat) (cause : Failure) (u : Timeline σ) : Prop where
  /-- The wait for the toolbox is just as patient. -/
  nested : operation = "check deployment status" ∧ attempts = max c.settings.patience.toNat 1
  /-- However many failures that wait has seen, they count as one here. -/
  within : k + 1 ≤ max c.settings.patience.toNat 1
  /-- The run ends at that poll just if this was the last failure that it puts up with. -/
  ends_iff : (∃ f, job.attempt.run server cancelAt t₀ = (.done (.error f), u)) ↔
    k + 1 = max c.settings.patience.toNat 1
  /-- The failure then names the report. -/
  last : k + 1 = max c.settings.patience.toNat 1 →
    job.attempt.run server cancelAt t₀ = (.done
      (.error (.repeated "fetch ceph status" (k + 1) (gaveUp operation attempts cause))), u)
  /-- Otherwise the run comes to the next poll, unless it is interrupted before, and asks again. -/
  again : k + 1 < max c.settings.patience.toNat 1 → n ≠ 0 →
    (StatusWait.pacer c timeout t₀.time).Open cancelAt (u.time + c.settings.interval.toNat) →
    ∃ m v, w.Comes server cancelAt timeout t₀ n (k + 1) m v ∧
      v = { u with time := u.time + c.settings.interval.toNat } ∧
      ∃ more, (job.attempt.run server cancelAt t₀).2.seen =
        more ++ .called v.time (.getDeployment c.settings.space c.settings.toolbox) :: u.seen

/-- In all runs of a wait lost patience with the toolbox is one failure to get the report. -/
def CountsOnce (w : StatusWait c) (job : Option Nat → Job Unit) : Prop :=
  ∀ timeout t₀ n k operation attempts cause u,
    w.Misses server cancelAt timeout t₀ n k (gaveUp operation attempts cause) u →
      CountedOnce server cancelAt w timeout t₀ (job timeout) n k operation attempts cause u

variable {server} {cancelAt}

theorem countsOnce_await (w : StatusWait c) : CountsOnce server cancelAt w w.await := by
  rintro timeout t₀ n k operation attempts cause u ⟨m, t, h, hf⟩
  have hr := isRetryable_gaveUp operation attempts cause
  obtain ⟨hb, hrow⟩ := h.budget_eq
  have hwithin : k + 1 ≤ max c.settings.patience.toNat 1 := by
    rcases hb.room with h | h <;> omega
  have hopen : (StatusWait.pacer c timeout t₀.time).Open cancelAt u.time := Job.run_guarded_ok hf
  constructor
  · obtain ⟨_, _, hc⟩ := Job.course_run_ok hf
    exact fails_fetchStatus c _ _ ((Job.course_guarded_ok ..).1 hc) _ _ _ rfl
  · exact hwithin
  · constructor
    · -- a failure with room left leads to a pause, and the run goes on from there
      rintro ⟨f, hend⟩
      refine Nat.le_antisymm hwithin (Nat.le_of_not_lt fun hk => ?_)
      obtain ⟨m', _, hrun⟩ := StatusWait.run_counted h hf hr hk
      rw [hrun] at hend
      exact StatusWait.ne_of_counted hopen f hend
    · exact fun hk => ⟨_, h.last hf hr hk⟩
  · exact h.last hf hr
  · intro hk hn hnext
    obtain ⟨m', hcomes, hrun⟩ := StatusWait.run_counted h hf hr hk
    have hp : (w.pause (StatusWait.pacer c timeout t₀.time) m').attempt.run server cancelAt u =
      (.done (.ok ()), { u with time := u.time + c.settings.interval.toNat }) :=
      run_pause hopen hnext
    refine ⟨m', _, hcomes _ hp, rfl, ?_⟩
    obtain ⟨n, rfl⟩ := Nat.exists_eq_succ_of_ne_zero hn
    rw [hrun, Job.run_bind_of_ok hp]
    exact StatusWait.called_polls hnext

variable (server) (cancelAt) (c)

/-- The waits that ask for a report in their polls. -/
structure LostPatienceCounts : Prop where
  health : CountsOnce server cancelAt (StatusWait.health c) (awaitHealth c)
  removability : ∀ osd,
    CountsOnce server cancelAt (StatusWait.removability c osd) (awaitRemovable c osd)
  osdDown : CountsOnce server cancelAt (StatusWait.osdDown c) (awaitOsdDown c)

/-- When the wait for the toolbox loses patience, the wait around it has seen one more failure: it
ends just if this fills its own budget, however the cluster behaves and whenever the user
cancels. -/
theorem lost_patience_counts : LostPatienceCounts server cancelAt c where
  health := await_health c ▸ countsOnce_await _
  removability osd := await_removability c osd ▸ countsOnce_await _
  osdDown := await_osdDown c ▸ countsOnce_await _

end

/-- A healthy cluster whose toolbox is looked at in vain twice while it starts. Its state is how
often the toolbox was looked at. -/
def shaky : Server Nat where
  receive _ _ looks := (some 0, looks)
  answer _ r looks :=
    match r with
    | .getDeployment .. =>
      (some (if looks = 1 ∨ looks = 2 then .error (.api "connection reset")
        else .ok (some { status := some { ready := some (if looks = 0 then 0 else 1) } })),
        looks + 1)
    | .listPods .. =>
      (some (.ok [{ spec := some { containers := [{ name := "rook-ceph-tools" }] } }]), looks)
    | .exec .. =>
      (some (.ok (.success ("\x7b\"health\":\x7b\"status\":\"HEALTH_OK\"\x7d,\"osdmap\":"
        ++ "\x7b\"osdmap\":\x7b\"num_osds\":2,\"num_up_osds\":2\x7d\x7d\x7d"))), looks)
    | .listNodes => (some (.ok []), looks)
    | .patchDeployment .. | .createDeployment .. | .deleteDeployment .. | .deletePods ..
    | .patchCluster .. => (some (.ok ()), looks)

/-- Stock settings, but that two failures in a row are too many and one poll settles a cluster. -/
def impatient : Context :=
  ⟨{ Settings.standard with patience := 2, healthConfirmations := 1 }, 3⟩

/-- At its first poll, a second after its beginning, a wait for health gets no report because the
wait for the toolbox has lost patience. A second later it ends well. -/
theorem lost_patience_survived :
    (∃ u, (StatusWait.health impatient).Misses shaky none (some 60000) ⟨0, 0, []⟩ 2 0
        (gaveUp "check deployment status" 2 (.api "connection reset")) u ∧ u.time = 1000) ∧
      ((awaitHealth impatient (some 60000)).attempt.run shaky none ⟨0, 0, []⟩).1.result? =
        some (.ok ()) ∧
      ((awaitHealth impatient (some 60000)).attempt.run shaky none ⟨0, 0, []⟩).2.time = 2000 := by
  let w := StatusWait.health impatient
  let begun : Timeline Nat := ⟨0, 0, [.told 0 (.line "Waiting for Rook-Ceph to be healthy")]⟩
  let missed := (w.fetch (StatusWait.pacer impatient (some 60000) 0) w.start).attempt.run
    shaky none begun
  have hmissed : (missed.1.result?, missed.2.time) = (some (.ok (.error
      (gaveUp "check deployment status" 2 (.api "connection reset")))), 1000) := by
    decide +kernel
  obtain ⟨hresult, htime⟩ := Prod.mk.inj hmissed
  have hrun : missed = (.done (.ok (.error
      (gaveUp "check deployment status" 2 (.api "connection reset")))), missed.2) :=
    Prod.ext (eq_done_of_result hresult) rfl
  refine ⟨⟨missed.2, ⟨w.start, begun, .start (by decide) rfl, hrun⟩, htime⟩, ?_⟩
  decide +kernel

end OsdMigration
