import OsdMigration.Osd.Inventory
import OsdMigration.Wait.Scale

set_option autoImplicit false

/-! # Waiting for hosts with block devices

Hostpath OSDs may go once OSDs on block devices run on enough hosts.
-/

namespace OsdMigration

open Osd (HostCounts)

/-- What a wait for block hosts remembers: its patience, and how many hosts it counted last. -/
structure BlockHostWait where
  budget : Budget
  found : Nat := 0

namespace BlockHostWait

/-- The failure of the wait when it is interrupted. -/
def stopped (wanted : Nat) (w : BlockHostWait) (i : Interruption) : Failure :=
  i.failure ("sufficient block OSDs, have " ++ toString w.found ++ " of " ++ toString wanted) none

/-- What the wait tells in passing. -/
def telling (wanted found : Nat) : String :=
  "Waiting for block device OSDs to be added to the cluster on " ++ toString wanted
    ++ " nodes, have " ++ toString found

/-- What one count leads to. -/
def observe (wanted : Nat) (w : BlockHostWait) (answer : Attempt HostCounts) :
    Attempt (Poll BlockHostWait) :=
  match answer with
  | .ok counts =>
    if wanted ≤ counts.block then .ok .met
    else .ok (.again ⟨w.budget.succeed, counts.block⟩ (some (telling wanted counts.block)))
  | .error f => do
    let budget ← w.budget.spend f
    pure (.again { w with budget } (some (telling wanted w.found)))

/-- One poll. -/
def poll (s : Settings) (wanted : Nat) (p : Pacer) (w : BlockHostWait) :
    Job (Poll BlockHostWait) := do
  let answer ← p.guarded (stopped wanted w) (Osd.countHostsNow s).attempt
  Job.ofAttempt (observe wanted w answer)

end BlockHostWait

/-- How many hosts with block devices are wanted now. -/
def wantedBlockHostsNow (s : Settings) : Job Nat := do
  let nodes ← Osd.countNodes
  pure (Osd.wantedBlockHosts nodes s.maxBlockHosts.toNat)

/-- Whether block devices are in use on enough hosts. -/
def hasEnoughBlockHosts (s : Settings) : Job Bool := do
  let wanted ← wantedBlockHostsNow s
  let counts ← (Osd.countHostsNow s).during "unable to count OSDs"
  pure (wanted ≤ counts.block)

/-- Waits until block devices are in use on enough hosts, or the user cancels. -/
def awaitBlockHosts (c : Context) : Job Unit := do
  -- nodes are counted once, so the goal does not move during the wait
  let wanted ← wantedBlockHostsNow c.settings
  let p ← Pacer.start c.settings.interval.toNat none
  p.wait (BlockHostWait.stopped wanted) (BlockHostWait.poll c.settings wanted p) c.polls
    ⟨c.settings.budget "count rook OSDs", 0⟩

end OsdMigration
