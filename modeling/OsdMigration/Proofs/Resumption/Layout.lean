import OsdMigration.Proofs.MiniCluster.Operations

set_option autoImplicit false

/-! # Clusters that are built

A cluster is built from pieces, added one after the other in any order. The numbers of its OSDs are
distinct, those that are yet to come up included. So every OSD on a host directory stands where it
should at the start (`standing_layout`).
-/

namespace OsdMigration

open Cluster
open MiniCluster (Numbered Standing)

/-- A piece of a cluster. -/
inductive Piece where
  | nodes (names : List String)
  | toolbox
  | operator (image : String)
  | osd (osd : UInt32) (host : String) (hostpath : Bool)
  /-- The OSDs that come up once every block device is used. -/
  | pending (osds : List (UInt32 × String))
  /-- What Ceph reports of its status. -/
  | report (report : Json)

namespace Piece

/-- The OSDs of a piece. -/
def osds : Piece → List UInt32
  | .osd n _ _ => [n]
  | .pending l => l.map Prod.fst
  | _ => []

/-- The cluster with a piece more. -/
def addTo (m : MiniCluster) : Piece → MiniCluster
  | .nodes names => m.withNodes names
  | .toolbox => m.withToolbox
  | .operator image => m.withOperator image
  | .osd n host hostpath => m.withOsd n host hostpath
  | .pending l => m.withPending l
  | .report r => { m with report := r }

end Piece

/-- The pieces of a cluster. -/
structure Layout where
  pieces : List Piece
  distinct : (pieces.flatMap Piece.osds).Nodup

/-- The cluster that is built. -/
def Layout.cluster (l : Layout) : MiniCluster := l.pieces.foldl Piece.addTo .bare

variable {osd : UInt32} {scaled purged deleted : Prop} {m : MiniCluster}

/-- An application other than an OSD is added. -/
theorem standing_app (h : Standing osd scaled purged deleted m) (app : String)
    (hn : app.toList[11]? ≠ some 's') (hne : "rook-ceph-osd" ≠ app) (hcomma : ',' ∉ app.toList)
    (suffix image : String) :
    Standing osd scaled purged deleted (m.run app (MiniCluster.appPod app suffix image)) := by
  refine h.run_foreign (MiniCluster.ne_osdDeployment osd hn) ?_ ?_
  · rintro spec hs
    cases hs
    exact MiniCluster.foreign_app rfl rfl hne hcomma
  · have hnone : (MiniCluster.appPod app suffix image).labels.get? "ceph-osd-id" = none := rfl
    have hread : Text.uint32? "" = none := by decide +kernel
    rw [Numbered, hnone, Option.getD_none, hread]
    exact (Option.some_ne_none osd).symm

/-- A piece without the OSD leaves it where it stands. -/
theorem standing_addTo (h : Standing osd scaled purged deleted m) {piece : Piece}
    (hp : osd ∉ piece.osds) : Standing osd scaled purged deleted (piece.addTo m) := by
  cases piece with
  | nodes names => exact h.of_eq rfl rfl rfl rfl
  | toolbox =>
      exact standing_app h "rook-ceph-tools" (by decide) (by decide) (by decide) _ _
  | operator image =>
      exact standing_app h "rook-ceph-operator" (by decide) (by decide) (by decide) _ _
  | osd n host hostpath =>
      exact h.withOsd_other (fun he => hp (he ▸ List.mem_singleton_self _)) host hostpath
  | pending l =>
      refine ⟨h.deployed, h.pods, h.running, h.known, fun q hq he => hp ?_⟩
      exact he ▸ List.mem_map_of_mem hq
  | report report => exact h.of_eq rfl rfl rfl rfl

theorem standing_foldl {pieces : List Piece} (h : Standing osd scaled purged deleted m)
    (hp : osd ∉ pieces.flatMap Piece.osds) :
    Standing osd scaled purged deleted (pieces.foldl Piece.addTo m) := by
  induction pieces generalizing m with
  | nil => exact h
  | cons piece pieces ih =>
      rw [List.flatMap_cons, List.mem_append] at hp
      exact ih (standing_addTo h fun hm => hp (.inl hm)) fun hm => hp (.inr hm)

/-- In the bare cluster there is nothing of any OSD. -/
theorem standing_bare (osd : UInt32) : Standing osd True True True .bare where
  deployed := by
    constructor
    · intro n _ name d hd
      exact absurd hd (by simp [MiniCluster.bare])
    · simp [NameMap.contains, MiniCluster.bare]
  pods := fun p hp => absurd hp List.not_mem_nil
  running := ⟨fun _ => trivial, fun _ => rfl⟩
  known := ⟨fun hm => absurd hm List.not_mem_nil, fun h => absurd trivial h⟩
  pending := fun q hq => absurd hq List.not_mem_nil

/-- Every OSD on a host directory has its pod, its deployment and its place in Ceph's list. -/
theorem standing_layout (l : Layout) {host : String} (h : .osd osd host true ∈ l.pieces) :
    Standing osd False False False l.cluster := by
  obtain ⟨front, back, hl⟩ := List.append_of_mem h
  have hd := l.distinct
  rw [hl, List.flatMap_append, List.flatMap_cons] at hd
  have hfront : osd ∉ front.flatMap Piece.osds := fun hm =>
    (List.nodup_append.1 hd).2.2 osd hm osd (List.mem_append_left _ (List.mem_singleton_self _)) rfl
  have hback : osd ∉ back.flatMap Piece.osds := fun hm =>
    (List.nodup_cons.1 (List.nodup_append.1 hd).2.1).1 hm
  rw [Layout.cluster, hl, List.foldl_append, List.foldl_cons]
  exact standing_foldl ((standing_foldl (standing_bare osd) hfront).withOsd_self host) hback

end OsdMigration
