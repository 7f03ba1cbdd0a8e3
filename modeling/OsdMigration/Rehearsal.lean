import OsdMigration.MiniCluster.Serve
import OsdMigration.Procedure.Run
import OsdMigration.Rehearsal.Change
import OsdMigration.Rehearsal.Script

set_option autoImplicit false

/-! # Rehearsals

A rehearsal runs procedures against a cluster in memory, with requests that go wrong as a script
says and changes that happen at given times.
-/

namespace OsdMigration

open Cluster (Request)

/-- A cluster in memory with what is going to happen to it. -/
structure Rehearsal where
  cluster : MiniCluster
  script : Script := .empty
  /-- The changes to come, with their times. -/
  changes : List (Nat × Change) := []
  /-- The plan of the request that is under way. -/
  underWay : Option ((k : Request.Kind) × Plan k.Reply) := none

namespace Rehearsal

/-- The rehearsal after every change that is due. -/
def advance (now : Nat) (h : Rehearsal) : Rehearsal :=
  { h with
    cluster := (h.changes.filter fun c => c.1 ≤ now).foldl (fun m c => m.change c.2) h.cluster
    changes := h.changes.filter fun c => now < c.1 }

/-- The cluster of a rehearsal as a server. -/
def server : Server Rehearsal where
  receive now r h :=
    let h := h.advance now
    let (plan, script) := h.script.next r.kind
    (plan.delay?, { h with script, underWay := some ⟨r.kind, plan⟩ })
  answer now r h :=
    let h := h.advance now
    let forward : Option (Attempt r.Reply) × Rehearsal :=
      let (a, cluster) := h.cluster.serve r
      (a, { h with cluster })
    match h.underWay with
    | some ⟨k, plan⟩ =>
      -- a plan has the type of its kind, so the kind is compared before it is used
      if same : k = r.kind then
        match same ▸ plan with
        | .hang => (none, h)
        | .refuse _ f => (some (.error f), h)
        | .reply _ value => (some (.ok value), h)
        | .forward _ => forward
      else forward
    | none => forward

/-- A part of a rehearsal: how a procedure ended, when, and what was seen, in its order. -/
structure Act (α : Type) where
  ending : Ending α
  duration : Nat
  seen : List Event

/-- Runs a procedure. Its clock starts at zero, and so do the times of the changes that come while
it runs; changes that are not due when it ends do not happen. -/
def perform {α : Type} (h : Rehearsal) (cancelAt : Option Nat) (changes : List (Nat × Change))
    (proc : Procedure α) : Act α × Rehearsal :=
  let changes := changes.mergeSort fun a b => a.1 ≤ b.1
  let (ending, t) := proc.run server cancelAt ⟨0, { h with changes }, []⟩
  (⟨ending, t.time, t.seen.reverse⟩, { t.server.advance t.time with changes := [] })

end Rehearsal

end OsdMigration
