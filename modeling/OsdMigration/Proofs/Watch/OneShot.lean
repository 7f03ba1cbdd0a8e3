import OsdMigration.Proofs.Cancellation
import OsdMigration.Proofs.Watch.Health

set_option autoImplicit false

/-! # Waits for one good answer

The wait for an OSD to be down and the wait for hosts with block devices end well at the first
answer that meets their condition (`downWatch`, `blockHostWatch`). The second one counts the nodes
before its first poll and not again, and when it is interrupted it says what was counted last.
-/

namespace OsdMigration

open Ceph (Status)
open Cluster (Request)
open Osd (HostCounts)

/-! ## An OSD that is down -/

/-- Asking for a report, in a wait for an OSD to be down: one is if fewer are up than the cluster
knows. -/
def Settings.downQuestion (s : Settings) : Question Status where
  operation := "fetch ceph status"
  patience := s.patience.toNat
  wanted := 1
  wanted_pos := Nat.one_pos
  judge status := .ok (decide (status.osds.up < status.osds.total))

/-- A wait for an OSD to be down. -/
def downWatch (c : Context) : Watch (Attempt Status) where
  look p := p.guard (Monitor.fetchStatus c).attempt
  telling
    | .ok status :: _ => some ("Waiting for Ceph to mark an OSD down, "
        ++ toString status.osds.up ++ " of " ++ toString status.osds.total ++ " up")
    | _ => none
  operation _ := "an OSD to be marked down"
  last _ := none
  Settles := c.settings.downQuestion.Decides

/-- What the wait remembers after these reports. -/
def DownWait.StandsFor (s : Settings) (h : List (Attempt Status)) (w : DownWait) : Prop :=
  s.downQuestion.Spent h w.budget

theorem recalls_down (c : Context) (p : Pacer) :
    (downWatch c).Recalls (DownWait.StandsFor c.settings) p
      DownWait.stopped (DownWait.poll c p) DownWait.observe where
  poll_eq _ := rfl
  stopped_eq _ _ _ := rfl
  leads h w hw x := by
    cases x with
    | error f => exact Question.leads_error rfl hw rfl fun b' hb => hb
    | ok status =>
        refine Question.leads_answer rfl rfl ?_ rfl hw.succeed
        simp [Settings.downQuestion, Ceph.OsdCounts.someDown]

/-! ## Hosts with block devices -/

/-- Counting hosts, in a wait for block devices on so many of them. -/
def Settings.blockHostQuestion (s : Settings) (wanted : Nat) : Question HostCounts where
  operation := "count rook OSDs"
  patience := s.patience.toNat
  wanted := 1
  wanted_pos := Nat.one_pos
  judge counts := .ok (decide (wanted ≤ counts.block))

/-- How many hosts the last count that succeeded found; none if there was no such count. -/
def lastCounted (h : List (Attempt HostCounts)) : Nat :=
  ((h.findSome? Except.toOption).map HostCounts.block).getD 0

/-- A wait for block devices on so many hosts. -/
def blockHostWatch (s : Settings) (wanted : Nat) : Watch (Attempt HostCounts) where
  look p := p.guard (Osd.countHostsNow s).attempt
  telling h := some (BlockHostWait.telling wanted (lastCounted h))
  operation h := "sufficient block OSDs, have " ++ toString (lastCounted h) ++ " of "
    ++ toString wanted
  last _ := none
  Settles := (s.blockHostQuestion wanted).Decides

/-- What the wait remembers after these counts. -/
structure BlockHostWait.StandsFor (s : Settings) (wanted : Nat) (h : List (Attempt HostCounts))
    (w : BlockHostWait) : Prop where
  budget : (s.blockHostQuestion wanted).Spent h w.budget
  found : w.found = lastCounted h

theorem recalls_blockHosts (s : Settings) (wanted : Nat) (p : Pacer) :
    (blockHostWatch s wanted).Recalls (BlockHostWait.StandsFor s wanted) p
      (BlockHostWait.stopped wanted) (BlockHostWait.poll s wanted p)
      (BlockHostWait.observe wanted) where
  poll_eq _ := rfl
  stopped_eq h w hw := by
    funext i
    simp only [BlockHostWait.stopped, Watch.stopped, blockHostWatch, hw.found]
  leads h w hw x := by
    cases x with
    | error f =>
        -- a count that fails leaves the one before it
        refine Question.leads_error rfl hw.budget ?_ fun _ hb => ⟨hb, hw.found⟩
        rw [hw.found]
        rfl
    | ok counts => exact Question.leads_answer rfl rfl rfl rfl ⟨hw.budget.succeed, rfl⟩

/-! ## Their runs -/

section

variable {σ : Type} (c : Context) (server : Server σ) (cancelAt : Option Nat)

theorem goesBy_awaitOsdDown (timeout : Option Nat) (t : Timeline σ) :
    Watch.Starts timeout t
      ((downWatch c).GoesBy server cancelAt (c.pacer timeout t.time) c.polls t)
      ((awaitOsdDown c timeout).attempt.run server cancelAt t) := by
  have hstart : DownWait.StandsFor c.settings [] ⟨c.settings.budget "fetch ceph status"⟩ :=
    Budget.counts_zero
  refine Watch.starts_bind ?_
  exact Watch.goesBy_of_recalls (recalls_down c _) hstart
    fun r => Question.not_decides_nil

/-- What a run of the wait for hosts with block devices, begun at `t`, owes to what it counts. -/
inductive GoesByCounts (t : Timeline σ) : Ending (Attempt Unit) × Timeline σ → Prop
  /-- The nodes are counted before the first poll. How many hosts are wanted is settled then, and
  nodes are not listed again. -/
  | counted {nodes : Nat} {u : Timeline σ} {run : Ending (Attempt Unit) × Timeline σ}
      (nodesCounted : Osd.countNodes.attempt.run server cancelAt t = (.done (.ok nodes), u))
      (goesBy : (blockHostWatch c.settings (min nodes c.settings.maxBlockHosts.toNat)).GoesBy server
        cancelAt (c.pacer none u.time) c.polls u run)
      (once : ∃ polled, run.2.seen = polled ++ u.seen ∧ Asking (· ≠ .listNodes) polled) :
      GoesByCounts t run
  /-- That they cannot be counted is the failure of the wait. -/
  | uncounted {f : Failure} {u : Timeline σ}
      (failed : Osd.countNodes.attempt.run server cancelAt t = (.done (.error f), u)) :
      GoesByCounts t (.done (.error f), u)
  /-- The count comes to nothing. -/
  | endless {run : Ending (Attempt Unit) × Timeline σ}
      (count : ∀ o, (Osd.countNodes.attempt.run server cancelAt t).1 ≠ .done o)
      (wait : ∀ r, run.1 ≠ .done r) : GoesByCounts t run

/-- The polls for block devices list no nodes. -/
theorem sends_pollBlockHosts (wanted : Nat) :
    Job.Sends (· ≠ .listNodes) (pollBlockHosts c wanted) := by
  have hA := cumulative_asking (· ≠ Request.listNodes)
  have hcount : Job.Sends (· ≠ .listNodes) (Osd.countHostsNow c.settings) :=
    hA.bind (hA.bind (Cumulative.during _ (Job.sends_ask nofun)) fun _ => hA.ofAttempt _)
      fun _ => hA.pure _
  exact hA.bind (hA.start _ _) fun p => hA.wait p _
    (fun w => hA.bind (hA.guarded p _ hcount) fun _ => hA.ofAttempt _) _ _

theorem goesByCounts_awaitBlockHosts (t : Timeline σ) :
    GoesByCounts c server cancelAt t ((awaitBlockHosts c).attempt.run server cancelAt t) := by
  rw [awaitBlockHosts_eq]
  rcases hcount : Osd.countNodes.attempt.run server cancelAt t with ⟨(f | nodes) | _ | _ | _ | _, u⟩
  · have hwanted : (wantedBlockHostsNow c.settings).attempt.run server cancelAt t =
        (.done (.error f), u) := Job.run_bind_of_error hcount
    rw [Job.run_bind_of_error hwanted]
    exact .uncounted hcount
  · have hwanted : (wantedBlockHostsNow c.settings).attempt.run server cancelAt t =
        (.done (.ok (min nodes c.settings.maxBlockHosts.toNat)), u) := Job.run_bind_of_ok hcount
    rw [Job.run_bind_of_ok hwanted]
    refine .counted hcount ?_ ?_
    · have hstart : BlockHostWait.StandsFor c.settings (min nodes c.settings.maxBlockHosts.toNat) []
          ⟨c.settings.budget "count rook OSDs", 0⟩ := ⟨Budget.counts_zero, rfl⟩
      exact Watch.goesBy_of_recalls (recalls_blockHosts c.settings _ _) hstart
        fun r => Question.not_decides_nil
    · obtain ⟨polled, hseen, hc⟩ := Job.course_run server cancelAt
        (pollBlockHosts c (min nodes c.settings.maxBlockHosts.toNat)) u
      refine ⟨polled.reverse, hseen, fun e he => ?_⟩
      exact sends_pollBlockHosts c _ polled _ hc e (List.mem_reverse.1 he)
  all_goals
    refine .endless (by rw [hcount]; exact nofun) ?_
    rw [Job.run_bind, wantedBlockHostsNow, Job.run_bind, hcount]
    exact nofun

/-- Both waits go by the answers to their question. -/
theorem oneShot_by_answers (timeout : Option Nat) (t : Timeline σ) :
    Watch.Starts timeout t
        ((downWatch c).GoesBy server cancelAt (c.pacer timeout t.time) c.polls t)
        ((awaitOsdDown c timeout).attempt.run server cancelAt t) ∧
      GoesByCounts c server cancelAt t ((awaitBlockHosts c).attempt.run server cancelAt t) :=
  ⟨goesBy_awaitOsdDown c server cancelAt timeout t,
    goesByCounts_awaitBlockHosts c server cancelAt t⟩

end

end OsdMigration
