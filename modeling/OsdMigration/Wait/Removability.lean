import OsdMigration.Wait.Health

set_option autoImplicit false

/-! # Waiting until an OSD can go

An OSD can go once the cluster was healthy and said so in several polls in a row. Whether the OSD
can go is asked only of a healthy cluster. Failures to learn the health and failures to learn
whether the OSD can go are counted apart; an answer that cannot be understood is a failure of the
second kind.
-/

namespace OsdMigration

open Ceph (Removability Status)
open Monitor (Answer)

/-- What a wait for the removal of an OSD remembers: its patience with the two questions, how many
polls in a row were in favour, and what was learnt last. -/
structure RemovalWait where
  health : Budget
  safety : Budget
  streak : Nat := 0
  last : String := ""

namespace RemovalWait

/-- What a poll learns. -/
inductive Finding where
  /-- The health could not be learnt. -/
  | blind (f : Failure)
  /-- The cluster is not healthy. -/
  | unhealthy (status : Status)
  /-- It is, and the second question was asked. -/
  | asked (answer : Attempt Answer)

/-- The failure of the wait when it is interrupted. -/
def stopped (osd : UInt32) (w : RemovalWait) (i : Interruption) : Failure :=
  i.failure (Ceph.osdName osd ++ " to be safe to destroy") (some w.last)

/-- What a finding leads to, where so many favourable ones in a row are wanted. -/
def observe (osd : UInt32) (wanted : Nat) (w : RemovalWait) :
    Finding → Attempt (Poll RemovalWait)
  | .blind f => do
    let health ← w.health.spend f
    pure (.again { w with health, streak := 0 } none)
  | .unhealthy status =>
    .ok (.again
      { w with health := w.health.succeed, streak := 0, last := status.verdict.2 }
      (some status.summary))
  | .asked (.ok ⟨.safe, _⟩) =>
    let streak := w.streak + 1
    let name := Ceph.osdName osd
    if wanted ≤ streak then .ok .met
    else
      .ok (.again ⟨w.health.succeed, w.safety.succeed, streak, name ++ " is safe to destroy"⟩
        (some (name ++ " is safe to destroy, confirming (" ++ toString streak ++ "/"
          ++ toString wanted ++ ")")))
  | .asked (.ok ⟨.busy groups, _⟩) =>
    let name := Ceph.osdName osd
    .ok (.again
      ⟨w.health.succeed, w.safety.succeed, 0,
        toString groups ++ " PGs are still mapped to " ++ name⟩
      (some ("Waiting for " ++ toString groups ++ " PGs to be moved off of " ++ name
        ++ " before removing it")))
  | .asked (.ok ⟨.unknown, words⟩) => do
    let command := Cluster.Request.commandLine (Ceph.Command.safeToDestroy osd).argv
    let safety ← w.safety.spend (.output command words)
    pure (.again { w with health := w.health.succeed, safety, streak := 0 } none)
  | .asked (.error f) => do
    let safety ← w.safety.spend f
    pure (.again { w with health := w.health.succeed, safety, streak := 0 } none)

/-- One poll. -/
def poll (c : Context) (osd : UInt32) (wanted : Nat) (p : Pacer) (w : RemovalWait) :
    Job (Poll RemovalWait) := do
  match ← p.guarded (stopped osd w) (Monitor.fetchStatus c).attempt with
  | .error f => Job.ofAttempt (observe osd wanted w (.blind f))
  | .ok status =>
    if status.verdict.1 then
      -- the report and the answer are two requests, each of which may be interrupted
      let answer ← p.guarded (stopped osd w) (Monitor.askRemovability c osd).attempt
      Job.ofAttempt (observe osd wanted w (.asked answer))
    else Job.ofAttempt (observe osd wanted w (.unhealthy status))

end RemovalWait

/-- Waits until an OSD can go, for so many milliseconds or until the user cancels. -/
def awaitRemovable (c : Context) (osd : UInt32) (timeout : Option Nat) : Job Unit := do
  let p ← Pacer.start c.settings.interval.toNat timeout
  p.wait (RemovalWait.stopped osd)
    (RemovalWait.poll c osd (confirmations c.settings.safeConfirmations) p) c.polls
    ⟨c.settings.budget "fetch ceph status",
      c.settings.budget "check if the OSD is safe to destroy", 0, ""⟩

end OsdMigration
