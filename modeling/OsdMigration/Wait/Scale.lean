import OsdMigration.Context
import OsdMigration.Wait.Budget
import OsdMigration.Wait.Pacer

set_option autoImplicit false

/-! # Waiting for a scale

A deployment has reached a scale when every count of its pods says so. If someone asks for
another scale than the one waited for, waiting is pointless and the wait fails.
-/

namespace OsdMigration

open Cluster (Deployment)

/-- What a wait for a scale remembers: its patience, and how many pods it saw last. -/
structure ScaleWait where
  budget : Budget
  seen : Option Int := none

namespace ScaleWait

/-- The wait for one deployment to come to a scale. -/
structure Goal where
  space : String
  name : String
  scale : Int

/-- The failure of the wait when it is interrupted. -/
def stopped (g : Goal) (w : ScaleWait) (i : Interruption) : Failure :=
  i.failure
    ("deployment " ++ g.space ++ ":" ++ g.name ++ " to reach scale " ++ toString g.scale)
    (some (toString (w.seen.getD 0) ++ " replicas"))

/-- What one answer leads to. A deployment that does not exist counts as a failure. -/
def observe (g : Goal) (w : ScaleWait) (answer : Attempt (Option Deployment)) :
    Attempt (Poll ScaleWait) :=
  match answer with
  | .ok (some d) =>
    -- a deployment that does not say what it asks for is taken to ask for the goal
    let foreign := d.wanted?.filter (· ≠ g.scale)
    match foreign with
    | some actual => .error (.foreignScale g.space g.name actual g.scale)
    | none =>
      if d.atScale g.scale then .ok .met
      else .ok (.again ⟨w.budget.succeed, d.status.bind Cluster.DeploymentStatus.replicas⟩ none)
  | .ok none => do
    let budget ← w.budget.spend (.missing "Deployment" g.name)
    pure (.again { w with budget } none)
  | .error f => do
    let budget ← w.budget.spend f
    pure (.again { w with budget } none)

/-- One poll. -/
def poll (g : Goal) (p : Pacer) (w : ScaleWait) : Job (Poll ScaleWait) := do
  let answer ← p.guarded (stopped g w) (.call (.getDeployment g.space g.name) .pure)
  Job.ofAttempt (observe g w answer)

end ScaleWait

/-- Waits until a deployment has the scale, for so many milliseconds. -/
def awaitScale (c : Context) (name : String) (scale : Int) (timeout : Nat) : Job Unit := do
  let space := c.settings.space
  let goal : ScaleWait.Goal := ⟨space, name, scale⟩
  Job.report ("Waiting for deployment " ++ name ++ " in " ++ space ++ " to reach scale of "
    ++ toString scale)
  let p ← Pacer.start c.settings.interval.toNat (some timeout)
  p.wait (ScaleWait.stopped goal) (ScaleWait.poll goal p) c.polls
    ⟨c.settings.budget "check deployment status", none⟩

end OsdMigration
