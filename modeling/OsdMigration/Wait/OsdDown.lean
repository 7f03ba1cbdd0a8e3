import OsdMigration.Wait.Health

set_option autoImplicit false

/-! # Waiting for an OSD to be down

An OSD is down when Ceph knows of more OSDs than are up.
-/

namespace OsdMigration

open Ceph (Status)

/-- What a wait for a missing OSD remembers: its patience. -/
structure DownWait where
  budget : Budget

namespace DownWait

/-- The failure of the wait when it is interrupted. -/
def stopped (_ : DownWait) (i : Interruption) : Failure :=
  i.failure "an OSD to be marked down" none

/-- What one report leads to. -/
def observe (w : DownWait) (answer : Attempt Status) : Attempt (Poll DownWait) :=
  match answer with
  | .ok status =>
    if status.osds.someDown then .ok .met
    else
      .ok (.again ⟨w.budget.succeed⟩
        (some ("Waiting for Ceph to mark an OSD down, " ++ toString status.osds.up ++ " of "
          ++ toString status.osds.total ++ " up")))
  | .error f => do
    let budget ← w.budget.spend f
    pure (.again ⟨budget⟩ none)

/-- One poll. -/
def poll (c : Context) (p : Pacer) (w : DownWait) : Job (Poll DownWait) := do
  let answer ← p.guarded (stopped w) (Monitor.fetchStatus c).attempt
  Job.ofAttempt (observe w answer)

end DownWait

/-- Waits until an OSD is down, for so many milliseconds or until the user cancels. -/
def awaitOsdDown (c : Context) (timeout : Option Nat) : Job Unit := do
  let p ← Pacer.start c.settings.interval.toNat timeout
  p.wait DownWait.stopped (DownWait.poll c p) c.polls ⟨c.settings.budget "fetch ceph status"⟩

end OsdMigration
