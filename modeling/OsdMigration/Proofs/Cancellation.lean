import OsdMigration.Proofs.Course.Patience
import OsdMigration.Proofs.Removal.Order
import OsdMigration.Rehearsal

set_option autoImplicit false

/-! # What cancellation stops

From the instant at which the user cancels no change to an OSD is asked for any more: commands are
cancellable themselves, and the two changes that are not, scaling a deployment down and deleting it,
come right behind something that is. A wait that is under way at that instant ends there and then
(`Stops`), whatever its requests are doing. The wait for block devices does so from its first poll
on; the nodes are counted before that, and the count is not cancellable.
-/

namespace OsdMigration

open Cluster (Request)
open Job (Always EndsBefore Instant Sends)
open Removal (OsdChange Step)

variable {σ α β : Type} {server : Server σ} {instant : Nat}

/-! ## Changes before an instant -/

/-- Every change to an OSD was asked for before an instant. -/
def ChangesBefore (instant : Nat) (seen : List Event) : Prop :=
  ∀ u r, .called u r ∈ seen → OsdChange.ofRequest? r ≠ none → u < instant

theorem ChangesBefore.append {a b : List Event} (ha : ChangesBefore instant a)
    (hb : ChangesBefore instant b) : ChangesBefore instant (a ++ b) := by
  intro u r hm
  rcases List.mem_append.1 hm with h | h
  · exact ha u r h
  · exact hb u r h

/-- Where no change is asked for none is too late. -/
theorem changesBefore_of_asking {allowed : Request → Prop} {seen : List Event}
    (h : Asking allowed seen) (hn : ∀ r, allowed r → OsdChange.ofRequest? r = none) :
    ChangesBefore instant seen :=
  fun _ r hm hr => absurd (hn r (h.called hm)) hr

namespace Job

/-- A job asks for no change from an instant on at which the user cancels, -/
def Heeds (server : Server σ) (instant : Nat) (job : Job α) : Prop :=
  ∀ t, ChangesBefore instant t.seen →
    ChangesBefore instant (job.attempt.run server (some instant) t).2.seen

/-- or not if it is begun before that. -/
def HeedsInTime (server : Server σ) (instant : Nat) (job : Job α) : Prop :=
  ∀ t, t.time < instant → ChangesBefore instant t.seen →
    ChangesBefore instant (job.attempt.run server (some instant) t).2.seen

theorem Heeds.watch {job : Job α} (h : Heeds server instant job) (now : Nat) (s : σ) :
    ChangesBefore instant (job.attempt.watch server (some instant) now s).2 := fun u r hm =>
  h ⟨now, s, []⟩ (fun _ _ hn => absurd hn List.not_mem_nil) u r (List.mem_reverse.1 hm)

theorem Heeds.bind {job : Job α} {f : α → Job β} (hj : Heeds server instant job)
    (hf : ∀ a, Heeds server instant (f a)) : Heeds server instant (job >>= f) := by
  intro t ht
  rcases run_bind_cases server (some instant) job f t with ⟨a, u, ha⟩ | ⟨hsame, _⟩
  · have hu := hj t ht
    rw [ha] at hu
    rw [run_bind_of_ok ha]
    exact hf a u hu
  · rw [hsame]
    exact hj t ht

theorem HeedsInTime.bind {job : Job α} {f : α → Job β} (hj : HeedsInTime server instant job)
    (hf : ∀ a, Heeds server instant (f a)) : HeedsInTime server instant (job >>= f) := by
  intro t hlt ht
  rcases run_bind_cases server (some instant) job f t with ⟨a, u, ha⟩ | ⟨hsame, _⟩
  · have hu := hj t hlt ht
    rw [ha] at hu
    rw [run_bind_of_ok ha]
    exact hf a u hu
  · rw [hsame]
    exact hj t hlt ht

/-- What takes no time may come before. -/
theorem HeedsInTime.instant_bind {job : Job α} {f : α → Job β}
    (hi : Instant server (some instant) job) (hj : Heeds server instant job)
    (hf : ∀ a, HeedsInTime server instant (f a)) : HeedsInTime server instant (job >>= f) := by
  intro t hlt ht
  rcases run_bind_cases server (some instant) job f t with ⟨a, u, ha⟩ | ⟨hsame, _⟩
  · have hu := hj t ht
    have htime := hi t
    rw [ha] at hu htime
    rw [run_bind_of_ok ha]
    exact hf a u (htime ▸ hlt) hu
  · rw [hsame]
    exact hj t ht

/-- What comes right behind a job that is cancellable is begun in time. -/
theorem Heeds.bind_inTime {job : Job α} {f : α → Job β} (hj : Heeds server instant job)
    (he : EndsBefore server (some instant) instant job)
    (hf : ∀ a, HeedsInTime server instant (f a)) : Heeds server instant (job >>= f) := by
  intro t ht
  rcases run_bind_cases server (some instant) job f t with ⟨a, u, ha⟩ | ⟨hsame, _⟩
  · have hu := hj t ht
    rw [ha] at hu
    rw [run_bind_of_ok ha]
    exact hf a u (he t a u ha) hu
  · rw [hsame]
    exact hj t ht

theorem seen_during (step : String) (job : Job α) (cancelAt : Option Nat) (t : Timeline σ) :
    ((job.during step).attempt.run server cancelAt t).2 =
      (job.attempt.run server cancelAt t).2 := by
  rw [run_during]
  rcases job.attempt.run server cancelAt t with ⟨a | _ | _ | _ | _, u⟩ <;> rfl

theorem Heeds.during (step : String) {job : Job α} (h : Heeds server instant job) :
    Heeds server instant (job.during step) := by
  intro t ht
  rw [seen_during]
  exact h t ht

theorem HeedsInTime.during (step : String) {job : Job α} (h : HeedsInTime server instant job) :
    HeedsInTime server instant (job.during step) := by
  intro t hlt ht
  rw [seen_during]
  exact h t hlt ht

/-- A job that asks for no change at all. -/
theorem Sends.heeds {allowed : Request → Prop} {job : Job α} (h : Sends allowed job)
    (hn : ∀ r, allowed r → OsdChange.ofRequest? r = none) : Heeds server instant job := by
  intro t ht
  obtain ⟨seen, hs, hc⟩ := course_run server (some instant) job t
  rw [hs]
  refine ChangesBefore.append (changesBefore_of_asking (fun e he => ?_) hn) ht
  exact h _ _ hc e (List.mem_reverse.1 he)

theorem heeds_pure (a : α) : Heeds server instant (pure a : Job α) := fun _ ht => ht

theorem heeds_tell (m : Message) : Heeds server instant (tell m) := by
  have hquiet : Sends (fun _ => False) (tell m) := (cumulative_asking _).tell m
  exact hquiet.heeds fun _ => False.elim

theorem heeds_report (text : String) : Heeds server instant (report text) := heeds_tell _

theorem Heeds.forM (xs : List α) {f : α → Job Unit} (hf : ∀ x, Heeds server instant (f x)) :
    Heeds server instant (xs.forM f) := by
  induction xs with
  | nil => exact heeds_pure ()
  | cons x xs ih => exact (hf x).bind fun _ => ih

/-! ## Requests that are changes -/

/-- A request is sent at once, and nothing else is. -/
theorem called_of_call {cancelAt : Option Nat} {limit : Option Limit} {depth : Nat}
    {t : Timeline σ} {r r' : Request} {u : Nat}
    (h : .called u r' ∈
      ((Procedure.call r .pure).runWithin server cancelAt limit depth t).2.seen) :
    (u = t.time ∧ r' = r) ∨ .called u r' ∈ t.seen := by
  have hcalled : .called u r' ∈ Event.called t.time r :: t.seen →
      (u = t.time ∧ r' = r) ∨ .called u r' ∈ t.seen := by
    intro hm
    rcases List.mem_cons.1 hm with hm | hm
    · cases hm
      exact .inl ⟨rfl, rfl⟩
    · exact .inr hm
  simp only [Procedure.runWithin] at h
  split at h
  · rw [(Procedure.seen_waiting _ _).1] at h
    exact hcalled h
  · split at h
    · rcases List.mem_cons.1 h with hm | hm
      · cases hm
      · exact hcalled hm
    · rw [(Procedure.seen_waiting _ _).1] at h
      exact hcalled h

/-- A request that is made in time is. -/
theorem heedsInTime_ask (r : Request) : HeedsInTime server instant (ask r) := by
  intro t hlt ht u r' hm hr
  rcases called_of_call hm with ⟨rfl, _⟩ | hm
  · exact hlt
  · exact ht u r' hm hr

theorem cancellable_eq (line : String) (work : Procedure α) :
    Toolbox.cancellable line work = Pacer.guarded ⟨0, none⟩ (Toolbox.abandoned line) work := rfl

/-- A request that is cancellable is not made once the user has cancelled. -/
theorem heeds_cancellable (line : String) (r : Request) :
    Heeds server instant (Toolbox.cancellable line (.call r .pure)) := by
  intro t ht u r' hm hr
  rw [cancellable_eq, run_guarded] at hm
  split at hm
  · exact ht u r' hm hr
  · rename_i hs
    have hlt : t.time < instant :=
      (Procedure.ahead_ofWork_iff.1 (@Procedure.ahead_ofWork _ _ _ 0 hs)).1 instant rfl
    rw [caught_timeline] at hm
    rcases called_of_call hm with ⟨rfl, _⟩ | hm
    · exact hlt
    · exact ht u r' hm hr

theorem endsBefore_cancellable (line : String) (work : Procedure α) :
    EndsBefore server (some instant) instant (Toolbox.cancellable line work) := by
  rw [cancellable_eq]
  exact EndsBefore.guarded_cancel _ _ _ rfl

end Job

/-- A command is cancellable; the listing before it is not, but it changes nothing. -/
theorem heeds_run (s : Settings) (argv : List String) :
    Job.Heeds server instant (Toolbox.run s argv) := by
  have hlist : Sends (· = .listPods s.space s.toolboxSelector)
      ((Job.ask (.listPods s.space s.toolboxSelector)).during
        "unable to find rook-ceph-tools pod") := Cumulative.during _ (Job.sends_ask rfl)
  refine (hlist.heeds (by rintro _ rfl; rfl)).bind fun pods => ?_
  refine Job.Heeds.bind (fun _ => id) fun ⟨pod, container⟩ => ?_
  refine (Job.heeds_cancellable _ _).bind fun answer => Job.Heeds.bind (fun _ => id) fun output => ?_
  split
  · exact Job.heeds_pure _
  · exact fun _ => id

/-- A command that succeeds does so before the user cancels. -/
theorem endsBefore_run (s : Settings) (argv : List String) :
    EndsBefore server (some instant) instant (Toolbox.run s argv) := by
  refine EndsBefore.bind fun pods => EndsBefore.bind fun ⟨pod, container⟩ => ?_
  refine (Job.endsBefore_cancellable _ _).bind_instant fun answer => ?_
  refine (Job.instant_ofAttempt answer).bind fun output => ?_
  split
  · exact Job.instant_pure _
  · exact Job.instant_ofAttempt _

/-! ## Removals -/

section

variable (c : Context) (osd : UInt32)

theorem heeds_command (cmd : Ceph.Command) :
    Job.Heeds server instant (Removal.command c.settings cmd) :=
  (Job.Heeds.during _ (heeds_run _ _)).bind fun _ => Job.heeds_pure ()

/-- A wait for the removal of an OSD ends well only before the user cancels. -/
theorem endsBefore_awaitRemovable (timeout : Option Nat) :
    EndsBefore server (some instant) instant (awaitRemovable c osd timeout) := by
  refine EndsBefore.bind fun p => EndsBefore.wait p _ (fun w => ?_) _ _
  refine (EndsBefore.guarded_cancel _ _ _ rfl).bind_of fun report => ?_
  cases report with
  | error f => exact .inl (Job.instant_ofAttempt _)
  | ok status =>
      simp only
      split
      · exact .inr ((EndsBefore.guarded_cancel _ _ _ rfl).bind_instant
          fun answer => Job.instant_ofAttempt _)
      · exact .inl (Job.instant_ofAttempt _)

/-- The changes of a removal that are not cancellable come right behind something that is. -/
theorem heeds_removeOsd : Job.Heeds server instant (removeOsd c osd) := by
  have hwait : ∀ step : Step, (∀ r, ¬ step.Changes c.settings osd r) →
      Job.Heeds server instant (step.perform c osd) := fun step hn =>
    (Removal.sends_perform c osd step).heeds fun r hr =>
      Removal.asks_no_change (hr.resolve_left (hn r))
  have hscale : Job.HeedsInTime server instant (Step.scaleDown.perform c osd) :=
    Job.HeedsInTime.instant_bind (fun _ => rfl) (Job.heeds_tell _) fun _ =>
      (Job.heedsInTime_ask _).during _
  refine Job.Heeds.bind ?_ fun _ => Job.heeds_report _
  refine Job.Heeds.bind ((Job.heeds_report _).bind fun _ => heeds_command c _) fun _ => ?_
  refine Job.Heeds.bind_inTime (hwait .settleBefore fun _ => id)
    (EndsBefore.bind fun _ => (endsBefore_awaitRemovable c osd none).during _) fun _ => ?_
  refine Job.HeedsInTime.bind hscale fun _ => ?_
  refine (hwait .confirmScale fun _ => id).bind fun _ => ?_
  refine (hwait .awaitDown fun _ => id).bind fun _ => ?_
  refine (hwait .settleAfter fun _ => id).bind fun _ => ?_
  refine Job.Heeds.bind_inTime ((Job.heeds_report _).bind fun _ => heeds_command c _)
    (EndsBefore.bind fun _ => ?_) fun _ => ?_
  · exact ((endsBefore_run _ _).during _).bind_instant fun _ => Job.instant_pure _
  · exact ((Job.heedsInTime_ask _).during _).bind fun _ => Job.heeds_pure ()

end

/-- Neither does a migration ask for a change once the user has cancelled. -/
theorem heeds_migrate (c : Context) : Job.Heeds server instant (migrate c) := by
  have quiet : ∀ {α : Type} {job : Job α}, Sends (Prepares c.settings) job →
      Job.Heeds server instant job := fun h => h.heeds fun _ => Removal.prepares_no_change
  refine (quiet (sends_prepare c)).bind fun _ => (Job.heeds_report _).bind fun _ =>
    ((quiet (sends_countHostsNow c)).during _).bind fun counts => ?_
  split
  · exact (Job.heeds_report _).bind fun _ => Job.heeds_pure _
  · refine (Job.heeds_report _).bind fun _ => (quiet (sends_provision c)).bind fun _ =>
      Job.Heeds.bind ?_ fun osds => (Job.heeds_report _).bind fun _ => Job.heeds_pure _
    refine (Job.heeds_report _).bind fun _ => ((quiet (sends_hostpathOsds c)).during _).bind
      fun found => (Job.heeds_report _).bind fun _ => Job.Heeds.bind ?_ fun _ => Job.heeds_pure _
    exact Job.Heeds.forM _ fun osd => (heeds_removeOsd c osd).during _

/-! ## Waits -/

/-- A run that began before the user cancels does not outlast that: it ends by then, and if it is
still under way then, it ends with a failure that says so. -/
structure StopsAt (instant : Nat) (run : Ending (Attempt α) × Timeline σ) : Prop where
  time_le : run.2.time ≤ instant
  cancelled : run.2.time = instant → ∃ f, run.1 = .done (.error f) ∧ f.category = .cancelled
  answered : run.1 ≠ .stuck

/-- All runs that begin before the user cancels stop then. -/
def Stops (server : Server σ) (instant : Nat) (job : Job α) : Prop :=
  ∀ t, t.time < instant → StopsAt instant (job.attempt.run server (some instant) t)

/-- What takes no time ends before the user cancels if it begins before that. -/
theorem stopsAt_of_lt {run : Ending (Attempt α) × Timeline σ} (ht : run.2.time < instant)
    (ha : run.1 ≠ .stuck) : StopsAt instant run :=
  ⟨Nat.le_of_lt ht, fun h => absurd h (Nat.ne_of_lt ht), ha⟩

theorem stops_ofAttempt (a : Attempt α) : Stops server instant (Job.ofAttempt a) :=
  fun _ ht => stopsAt_of_lt ht nofun

theorem stops_pure (a : α) : Stops server instant (pure a : Job α) := stops_ofAttempt (.ok a)

theorem stops_tell (m : Message) : Stops server instant (Job.tell m) :=
  fun _ ht => stopsAt_of_lt ht nofun

theorem stops_report (text : String) : Stops server instant (Job.report text) := stops_tell _

theorem stops_start (interval : Nat) (timeout : Option Nat) :
    Stops server instant (Pacer.start interval timeout) := by
  intro t ht
  by_cases hr : Clock.Reaches t.time timeout
  · rw [Job.run_start hr]
    exact stopsAt_of_lt ht nofun
  · rw [Job.run_start_beyond hr]
    exact stopsAt_of_lt ht nofun

theorem StopsAt.bind {job : Job α} {f : α → Job β} {t : Timeline σ}
    (h : StopsAt instant (job.attempt.run server (some instant) t))
    (hf : ∀ a, Stops server instant (f a)) :
    StopsAt instant ((job >>= f).attempt.run server (some instant) t) := by
  rcases hr : job.attempt.run server (some instant) t with ⟨(e | a) | _ | _ | _ | _, u⟩
  · rw [hr] at h
    rw [Job.run_bind_of_error hr]
    refine ⟨h.time_le, fun hu => ?_, nofun⟩
    obtain ⟨f, hf, hc⟩ := h.cancelled hu
    cases hf
    exact ⟨e, rfl, hc⟩
  · rw [hr] at h
    rw [Job.run_bind_of_ok hr]
    -- a result comes before the user cancels
    refine hf a u (Nat.lt_of_le_of_ne h.time_le fun hu => ?_)
    obtain ⟨f, hf, _⟩ := h.cancelled hu
    cases hf
  · exact (Procedure.run_ne_abandoned _ _ _ _ _ _ (congrArg Prod.fst hr)).elim
  · exact absurd (congrArg Prod.fst hr) h.answered
  all_goals
    rw [hr] at h
    rw [Job.run_bind, hr]
    refine ⟨h.time_le, fun hu => ?_, nofun⟩
    obtain ⟨f, hf, _⟩ := h.cancelled hu
    cases hf

namespace Stops

theorem bind {job : Job α} {f : α → Job β} (hj : Stops server instant job)
    (hf : ∀ a, Stops server instant (f a)) : Stops server instant (job >>= f) :=
  fun t ht => (hj t ht).bind hf

/-- Guarded work stops, whatever the work is doing. -/
theorem guarded (p : Pacer) {stopped : Interruption → Failure} (work : Procedure α)
    (hs : (stopped .cancelled).category = .cancelled) :
    Stops server instant (p.guarded stopped work) := by
  intro t ht
  rw [Job.run_guarded]
  split
  · exact stopsAt_of_lt ht nofun
  · rename_i hstart
    have hlimit := @Procedure.ahead_ofWork (some instant) p.deadline t.time 0 hstart
    have hdepth : ∀ l ∈ Limit.ofWork (some instant) p.deadline 0, l.depth < 1 := fun l hl =>
      Procedure.depth_ofWork hl ▸ Nat.one_pos
    have htime := Procedure.inTime_runWithin server (some instant) work _ 1 t hlimit hdepth
    have hlimited := Procedure.limited_runWithin server (some instant) work _ 1 t hlimit hdepth
    obtain ⟨l, hl, hle⟩ : ∃ l ∈ Limit.ofWork (some instant) p.deadline 0, l.time ≤ instant :=
      Procedure.exists_mem_earlier (a := ⟨instant, .cancelled, 0⟩) rfl
    generalize work.runWithin server (some instant) (Limit.ofWork (some instant) p.deadline 0) 1 t
      = e at htime hlimited
    obtain ⟨b | ⟨cause, d⟩ | _ | _ | message, u⟩ := e
    · exact stopsAt_of_lt ((Procedure.ahead_ofWork_iff.1 (htime.ahead b rfl)).1 instant rfl) nofun
    · have hat := htime.atLimit cause d rfl
      obtain rfl : d = 0 := Procedure.depth_ofWork hat
      refine ⟨Nat.le_trans (htime.time_le l hl) hle, fun hu => ?_, nofun⟩
      -- of a deadline at the same instant it is the user that counts
      rcases Procedure.mem_earlier hat with hm | ⟨hm, hlt⟩
      · cases hm
        exact ⟨_, rfl, hs⟩
      · have := hlt ⟨instant, .cancelled, 0⟩ rfl
        exact absurd hu (Nat.ne_of_lt this)
    · rw [hlimited.limit_of_stuck rfl] at hl
      cases hl
    · exact stopsAt_of_lt (Nat.lt_of_lt_of_le (hlimited.ahead_of_exhausted rfl l hl) hle) nofun
    · have hahead := hlimited.ahead_of_crashed message rfl l hl
      exact stopsAt_of_lt (Nat.lt_of_lt_of_le hahead hle) nofun

/-- A wait stops if its polls do. -/
theorem wait {ω : Type} (p : Pacer) {stopped : ω → Interruption → Failure}
    {poll : ω → Job (Poll ω)} (hp : ∀ w, Stops server instant (poll w))
    (hs : ∀ w, (stopped w .cancelled).category = .cancelled) (n : Nat) (w : ω) :
    Stops server instant (p.wait stopped poll n w) := by
  induction n generalizing w with
  | zero => exact fun _ ht => stopsAt_of_lt ht nofun
  | succ n ih =>
      refine (hp w).bind fun outcome => ?_
      cases outcome with
      | met => exact stops_pure ()
      | again w' passing =>
          refine bind ?_ fun _ => (guarded p _ (hs w')).bind fun _ => ih w'
          cases passing with
          | none => exact stops_pure ()
          | some text => exact stops_tell _

end Stops

section

variable (c : Context)

theorem stops_awaitHealth (timeout : Option Nat) :
    Stops server instant (awaitHealth c timeout) := by
  refine (stops_start _ _).bind fun p => (stops_report _).bind fun _ =>
    Stops.wait p (fun w => ?_) (fun _ => rfl) _ _
  exact (Stops.guarded p _ rfl).bind fun _ => stops_ofAttempt _

theorem stops_awaitRemovable (osd : UInt32) (timeout : Option Nat) :
    Stops server instant (awaitRemovable c osd timeout) := by
  refine (stops_start _ _).bind fun p => Stops.wait p (fun w => ?_) (fun _ => rfl) _ _
  refine (Stops.guarded p _ rfl).bind fun report => ?_
  cases report with
  | error f => exact stops_ofAttempt _
  | ok status =>
      simp only
      split
      · exact (Stops.guarded p _ rfl).bind fun _ => stops_ofAttempt _
      · exact stops_ofAttempt _

theorem stops_awaitOsdDown (timeout : Option Nat) :
    Stops server instant (awaitOsdDown c timeout) := by
  refine (stops_start _ _).bind fun p => Stops.wait p (fun w => ?_) (fun _ => rfl) _ _
  exact (Stops.guarded p _ rfl).bind fun _ => stops_ofAttempt _

theorem stops_awaitScale (name : String) (scale : Int) (timeout : Nat) :
    Stops server instant (awaitScale c name scale timeout) := by
  refine (stops_report _).bind fun _ => (stops_start _ _).bind fun p =>
    Stops.wait p (fun w => ?_) (fun _ => rfl) _ _
  exact (Stops.guarded p _ rfl).bind fun _ => stops_ofAttempt _

/-- The polls of the wait for block devices, once it is known on how many hosts they are wanted. -/
def pollBlockHosts (wanted : Nat) : Job Unit := do
  let p ← Pacer.start c.settings.interval.toNat none
  p.wait (BlockHostWait.stopped wanted) (BlockHostWait.poll c.settings wanted p) c.polls
    ⟨c.settings.budget "count rook OSDs", 0⟩

theorem awaitBlockHosts_eq :
    awaitBlockHosts c = wantedBlockHostsNow c.settings >>= pollBlockHosts c := rfl

theorem stops_pollBlockHosts (wanted : Nat) :
    Stops server instant (pollBlockHosts c wanted) := by
  refine (stops_start _ _).bind fun p => Stops.wait p (fun w => ?_) (fun _ => rfl) _ _
  exact (Stops.guarded p _ rfl).bind fun _ => stops_ofAttempt _

theorem patient_pollBlockHosts (cancelAt : Option Nat) (wanted : Nat) :
    Job.Patient server cancelAt c.pollTime (pollBlockHosts c wanted) := by
  have hC := Procedure.composing_patient server cancelAt c.pollTime
  have hinventory : Job.Patient server cancelAt c.pollTime (Osd.inventory c.settings) :=
    hC.andThen (hC.during _ (hC.ask _)) fun _ => hC.ofAttempt _
  have hcount : Job.Patient server cancelAt c.pollTime (Osd.countHostsNow c.settings) :=
    hC.andThen hinventory fun _ => hC.ofAttempt (.ok _)
  refine .start_bind fun _ => .wait (fun w => ?_) (Nat.le_refl _) _
  exact hC.andThen (hC.guarded _ _ hcount) fun _ => hC.ofAttempt _

/-- A wait ends when the user cancels at the latest, and with a failure that says so if it is still
under way then. What may end it earlier is its result, a failure, a crash, or the bound on its polls
after at least the time that they last. -/
def Halts (server : Server σ) (instant : Nat) (c : Context) (job : Job α) : Prop :=
  ∀ t, t.time < instant →
    StopsAt instant (job.attempt.run server (some instant) t) ∧
      ((job.attempt.run server (some instant) t).1 = .exhausted →
        t.time + c.pollTime ≤ (job.attempt.run server (some instant) t).2.time)

theorem Stops.halts {job : Job α} (h : Stops server instant job)
    (hp : Job.Patient server (some instant) c.pollTime job) : Halts server instant c job :=
  fun t ht => ⟨h t ht, hp none 0 t nofun nofun⟩

/-- The wait for block devices is under way until the nodes are counted at least. -/
theorem le_time_awaitBlockHosts (cancelAt : Option Nat) (t : Timeline σ) :
    ((wantedBlockHostsNow c.settings).attempt.run server cancelAt t).2.time ≤
      ((awaitBlockHosts c).attempt.run server cancelAt t).2.time := by
  rw [awaitBlockHosts_eq]
  rcases Job.run_bind_cases server cancelAt (wantedBlockHostsNow c.settings) (pollBlockHosts c) t
    with ⟨wanted, u, hr⟩ | ⟨hsame, _⟩
  · rw [Job.run_bind_of_ok hr, hr]
    exact Procedure.le_time_run _ _ _ _
  · exact Nat.le_of_eq (congrArg _ hsame.symm)

end

/-! ## Removals, migrations and waits -/

/-- How cancellation is heeded. -/
structure Heeded (server : Server σ) (instant : Nat) (c : Context) : Prop where
  /-- No change is asked for from that instant on, in a removal -/
  removal : ∀ osd now s, ChangesBefore instant
    ((removeOsd c osd).attempt.watch server (some instant) now s).2
  /-- and in a migration. -/
  migration : ∀ now s, ChangesBefore instant
    ((migrate c).attempt.watch server (some instant) now s).2
  health : ∀ timeout, Halts server instant c (awaitHealth c timeout)
  removability : ∀ osd timeout, Halts server instant c (awaitRemovable c osd timeout)
  osdDown : ∀ timeout, Halts server instant c (awaitOsdDown c timeout)
  scale : ∀ name scale timeout, Halts server instant c (awaitScale c name scale timeout)
  blockHostPolls : ∀ wanted, Halts server instant c (pollBlockHosts c wanted)
  /-- The wait for block devices as a whole heeds it just if the nodes are counted by then. -/
  blockHosts : ∀ t, t.time < instant →
    ((wantedBlockHostsNow c.settings).attempt.run server (some instant) t).2.time ≠ instant →
      (StopsAt instant ((awaitBlockHosts c).attempt.run server (some instant) t) ↔
        ((wantedBlockHostsNow c.settings).attempt.run server (some instant) t).1 ≠ .stuck ∧
        ((wantedBlockHostsNow c.settings).attempt.run server (some instant) t).2.time < instant)

/-- No change to an OSD is asked for once the user has cancelled, and the waits end there and then;
only while the wait for block devices counts the nodes it goes on. -/
theorem cancellation_heeded (server : Server σ) (instant : Nat) (c : Context) :
    Heeded server instant c where
  removal osd now s := (heeds_removeOsd c osd).watch now s
  migration now s := (heeds_migrate c).watch now s
  health timeout := (stops_awaitHealth c timeout).halts c (patient_awaitHealth _ _ c timeout)
  removability osd timeout :=
    (stops_awaitRemovable c osd timeout).halts c (patient_awaitRemovable _ _ c osd timeout)
  osdDown timeout := (stops_awaitOsdDown c timeout).halts c (patient_awaitOsdDown _ _ c timeout)
  scale name scale timeout :=
    (stops_awaitScale c name scale timeout).halts c (patient_awaitScale _ _ c name scale timeout)
  blockHostPolls wanted :=
    (stops_pollBlockHosts c wanted).halts c (patient_pollBlockHosts c _ wanted)
  blockHosts t _ hne := by
    have hle := @le_time_awaitBlockHosts _ server c (some instant) t
    constructor
    · intro h
      refine ⟨fun hstuck => h.answered ?_, ?_⟩
      · rw [awaitBlockHosts_eq, Job.run_bind]
        rcases hr : (wantedBlockHostsNow c.settings).attempt.run server (some instant) t with
          ⟨_ | _ | _ | _ | _, u⟩ <;> rw [hr] at hstuck <;> cases hstuck
        rfl
      · exact Nat.lt_of_le_of_ne (Nat.le_trans hle h.time_le) hne
    · rintro ⟨hanswered, hlt⟩
      rw [awaitBlockHosts_eq]
      exact (stopsAt_of_lt hlt hanswered).bind (stops_pollBlockHosts c)

/-- A cluster that lists its nodes only after half a minute. -/
def slowNodes : Rehearsal where
  cluster := (((((MiniCluster.bare.withNodes ["node-1"]).withToolbox).withOperator
    "rook/ceph:v1.0.4").withOsd 0 "10.0.0.1" true).withOsd 1 "10.0.0.2" false).prepare
      "ceph status --format json-pretty" [.ok ⟨0, "\x7b\"health\":\x7b\"status\":\"HEALTH_OK\"\x7d,"
        ++ "\"osdmap\":\x7b\"osdmap\":\x7b\"num_osds\":2,\"num_up_osds\":2\x7d\x7d\x7d", ""⟩]
  script := Script.empty.set .listNodes [.forward 30000]

/-- What kind of request is received, and when. -/
def Event.received? : Event → Option (Nat × Request.Kind)
  | .called t r => some (t, r.kind)
  | _ => none

theorem eq_called_listNodes {e : Event} {t : Nat} (h : e.received? = some (t, .listNodes)) :
    e = .called t .listNodes := by
  cases e with
  | called u r =>
      cases r <;> cases h
      rfl
  | answered u r a => cases h
  | told u m => cases h

/-- Why an attempt failed. -/
def Attempt.failure? {α : Type} : Attempt α → Option Failure
  | .ok _ => none
  | .error f => some f

theorem eq_done_of_failure {α : Type} {e : Ending (Attempt α)} {f : Failure}
    (h : e.result?.bind Attempt.failure? = some f) : e = .done (.error f) := by
  obtain ⟨a | a⟩ | _ | _ | _ | _ := e <;> cases h
  rfl

/-- A migration that is cancelled while the nodes are counted. -/
def countingRun : Ending (Attempt Migration.Outcome) × Timeline Rehearsal :=
  (migrate ⟨{ Settings.standard with
    healthConfirmations := 1, safeConfirmations := 1, maxBlockHosts := 1 }, 100⟩).attempt.run
      Rehearsal.server (some 5777) ⟨0, slowNodes, []⟩

/-- The wait for block devices is begun at once and does not stop when the user cancels. -/
theorem counting_goes_on :
    .called 0 .listNodes ∈ countingRun.2.seen ∧
      countingRun.1 = .done (.error (.during "failed to wait for block device OSDs to be added"
        (.cancelled "sufficient block OSDs, have 0 of 1"))) ∧
      countingRun.2.time = 30000 ∧ ¬ StopsAt 5777 countingRun := by
  have hrun : (countingRun.2.seen.any fun e => e.received? == some (0, .listNodes),
      countingRun.1.result?.bind Attempt.failure?, countingRun.2.time) =
    (true, some (.during "failed to wait for block device OSDs to be added"
        (.cancelled "sufficient block OSDs, have 0 of 1")), 30000) := by
    decide +kernel
  generalize countingRun = run at hrun ⊢
  simp only [Prod.mk.injEq, List.any_eq_true] at hrun
  obtain ⟨⟨e, he, hcalled⟩, hresult, htime⟩ := hrun
  refine ⟨?_, eq_done_of_failure hresult, htime, fun h => ?_⟩
  · rwa [eq_called_listNodes (eq_of_beq hcalled)] at he
  · have hle := h.time_le
    rw [htime] at hle
    omega

end OsdMigration
