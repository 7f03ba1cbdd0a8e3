import OsdMigration.Cluster.Request

set_option autoImplicit false

/-! # Scripts

A script says for the next requests of each kind how they go: delayed, refused, answered with a
given value, or never answered. A request for which nothing is planned goes to the cluster.
-/

namespace OsdMigration

open Cluster (Request)

/-- How one request of a kind goes. -/
inductive Plan (ρ : Type) where
  /-- There is never an answer. -/
  | hang
  /-- After so many milliseconds the request fails. -/
  | refuse (delay : Nat) (f : Failure)
  /-- After so many milliseconds a value is the answer, and the cluster is not asked. -/
  | reply (delay : Nat) (value : ρ)
  /-- After so many milliseconds the cluster is asked. -/
  | forward (delay : Nat)

/-- The delay of the answer, if there will be one. -/
def Plan.delay? {ρ : Type} : Plan ρ → Option Nat
  | .hang => none
  | .refuse d _ | .reply d _ | .forward d => some d

/-- The plans for the next requests of each kind. -/
def Script : Type := (k : Request.Kind) → List (Plan k.Reply)

namespace Script

/-- The script that plans nothing. -/
def empty : Script := fun _ => []

instance : Inhabited Script := ⟨empty⟩

/-- The script with other plans for a kind. -/
def set (s : Script) (k : Request.Kind) (plans : List (Plan k.Reply)) : Script :=
  fun k' => if h : k = k' then h ▸ plans else s k'

/-- The script with the plans of another one behind its own. -/
def append (s t : Script) : Script := fun k => s k ++ t k

/-- The plan for the next request of a kind, and the script without it. -/
def next (s : Script) (k : Request.Kind) : Plan k.Reply × Script :=
  match s k with
  | plan :: rest => (plan, s.set k rest)
  | [] => (.forward 0, s)

end Script

end OsdMigration
