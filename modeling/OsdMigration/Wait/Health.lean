import OsdMigration.Monitor

set_option autoImplicit false

/-! # Waiting for health

The cluster counts as healthy once it was healthy in several polls in a row. A poll that fails or
finds the cluster unhealthy starts the count again.
-/

namespace OsdMigration

open Ceph (Status)

/-- What a wait for health remembers: its patience, how many polls in a row were healthy, and why
the cluster was unhealthy last. -/
structure HealthWait where
  budget : Budget
  streak : Nat := 0
  last : String := ""

namespace HealthWait

/-- The failure of the wait when it is interrupted. -/
def stopped (w : HealthWait) (i : Interruption) : Failure :=
  i.failure "rook to become healthy" (some w.last)

/-- What one report leads to, where so many healthy ones in a row are wanted. -/
def observe (wanted : Nat) (w : HealthWait) (answer : Attempt Status) :
    Attempt (Poll HealthWait) :=
  match answer with
  | .ok status =>
    let (healthy, why) := status.verdict
    let budget := w.budget.succeed
    if healthy then
      if wanted ≤ w.streak + 1 then .ok .met
      else .ok (.again { w with budget, streak := w.streak + 1 } none)
    else .ok (.again ⟨budget, 0, why⟩ (some status.summary))
  | .error f => do
    let budget ← w.budget.spend f
    pure (.again { w with budget, streak := 0 } none)

/-- One poll. -/
def poll (c : Context) (wanted : Nat) (p : Pacer) (w : HealthWait) : Job (Poll HealthWait) := do
  let answer ← p.guarded (stopped w) (Monitor.fetchStatus c).attempt
  Job.ofAttempt (observe wanted w answer)

end HealthWait

/-- How often something has to be seen for it to count; once at least. -/
def confirmations (n : UInt32) : Nat := max n.toNat 1

/-- Waits until the cluster is healthy, for so many milliseconds or until the user cancels. -/
def awaitHealth (c : Context) (timeout : Option Nat) : Job Unit := do
  let p ← Pacer.start c.settings.interval.toNat timeout
  Job.report "Waiting for Rook-Ceph to be healthy"
  p.wait HealthWait.stopped
    (HealthWait.poll c (confirmations c.settings.healthConfirmations) p) c.polls
    ⟨c.settings.budget "fetch ceph status", 0, ""⟩

end OsdMigration
