import Mathlib.Algebra.GroupWithZero.Nat
import OsdMigration.Proofs.Completion.Commands
import OsdMigration.Proofs.MiniCluster.Arrival
import OsdMigration.Proofs.Resumption.Layout

set_option autoImplicit false

/-! # Clusters that are built, and run

A cluster that is built from pieces runs the OSDs among them, in the order in which they were added
(`Layout.assembled`). With one toolbox, and reports that are healthy, it answers every command.
-/

namespace OsdMigration

open Cluster
open MiniCluster (Answering Healthy Owner Runs directoryObject toolboxPod waiting)
open Osd (Device)

namespace Piece

/-- The OSDs of a piece that run as soon as it is added. -/
def devices : Piece → List Device
  | .osd n host hostpath => [⟨n, host, if hostpath then .hostpath else .block⟩]
  | _ => []

/-- How many toolboxes a piece adds. -/
def toolboxes : Piece → Nat
  | .toolbox => 1
  | _ => 0

end Piece

/-- The OSDs that run from the beginning. -/
def Layout.devices (l : Layout) : List Device := l.pieces.flatMap Piece.devices

/-- A cluster that was built so far: it runs some OSDs, it has some toolboxes, and the numbers of
its OSDs differ from those to come. -/
structure Assembled (devices : List Device) (toolboxes : Nat) (toCome : List UInt32)
    (m : MiniCluster) : Prop where
  runs : Runs m devices
  distinct : (toCome ++ (devices ++ waiting m.pending).map Device.osd).Nodup
  few : (toCome ++ (devices ++ waiting m.pending).map Device.osd).length < UInt32.size
  object : m.clusterObject = directoryObject
  healthy : Healthy m.report
  replies : m.replies = .empty
  listings : m.listingFaults = []
  answers : m.hangCommands = false
  toolboxPods : m.pods.filter (fun p => p.selectedBy "app=rook-ceph-tools") =
    List.replicate toolboxes toolboxPod
  toolbox : 0 < toolboxes → m.deployments.contains "rook-ceph-tools" = true

variable {devices : List Device} {toolboxes : Nat} {toCome : List UInt32} {m : MiniCluster}

/-- Nothing is built yet. -/
theorem assembled_bare (hdistinct : toCome.Nodup) (hfew : toCome.length < UInt32.size) :
    Assembled [] 0 toCome .bare where
  runs := by
    refine ⟨⟨rfl, ?_, ?_⟩, List.nodup_nil, rfl, fun n => rfl, fun n => Iff.rfl⟩
    · exact fun p hp => absurd hp List.not_mem_nil
    · exact fun name d hd => absurd hd (Option.some_ne_none d).symm
  distinct := by simpa [waiting, MiniCluster.bare] using hdistinct
  few := by simpa [waiting, MiniCluster.bare] using hfew
  object := rfl
  healthy := MiniCluster.healthy_healthyReport
  replies := rfl
  listings := rfl
  answers := rfl
  toolboxPods := rfl
  toolbox := nofun

/-- The toolbox or the operator is added. -/
theorem Assembled.run_app (h : Assembled devices toolboxes toCome m) {o : Owner} {pod : Pod}
    (hlabels : pod.labels = o.labels) (ho : o.app ≠ "rook-ceph-osd") (more : Nat)
    (hpods : [pod].filter (fun p => p.selectedBy "app=rook-ceph-tools") =
      List.replicate more toolboxPod)
    (hname : 0 < more → o.deployment = "rook-ceph-tools") :
    Assembled devices (toolboxes + more) toCome (m.run o.deployment pod) where
  runs := h.runs.run_app hlabels ho
  distinct := h.distinct
  few := h.few
  object := h.object
  healthy := h.healthy
  replies := h.replies
  listings := h.listings
  answers := h.answers
  toolboxPods := by
    rw [MiniCluster.run, List.filter_append, h.toolboxPods, hpods, List.replicate_append_replicate]
  toolbox := by
    intro hpos
    rw [MiniCluster.run, NameMap.contains, NameMap.get?_insert]
    split
    · rfl
    · rename_i hne
      have hmore : ¬ 0 < more := fun hp => hne (hname hp).symm
      exact h.toolbox (by omega)

/-- An OSD is added. -/
theorem Assembled.withOsd {d : Device} (h : Assembled devices toolboxes (d.osd :: toCome) m) :
    Assembled (devices ++ [d]) toolboxes toCome
      (m.withOsd d.osd d.host (d.backing = .hostpath)) := by
  have hperm : (toCome ++ (devices ++ [d] ++ waiting m.pending).map Device.osd).Perm
      (d.osd :: toCome ++ (devices ++ waiting m.pending).map Device.osd) := by
    have hmiddle : toCome ++ (devices ++ [d] ++ waiting m.pending).map Device.osd =
        toCome ++ devices.map Device.osd ++ d.osd :: (waiting m.pending).map Device.osd := by simp
    have hsplit : d.osd :: toCome ++ (devices ++ waiting m.pending).map Device.osd =
        d.osd :: (toCome ++ devices.map Device.osd ++ (waiting m.pending).map Device.osd) := by simp
    rw [hmiddle, hsplit]
    exact List.perm_middle
  have hnew : d.osd ∉ devices.map Device.osd := by
    intro hm
    refine (List.nodup_cons.1 h.distinct).1 (List.mem_append_right _ ?_)
    rw [List.map_append]
    exact List.mem_append_left _ hm
  obtain ⟨ds, ps, os, hjoined, htoolbox, hpods⟩ : MiniCluster.Joined m
      (m.withOsd d.osd d.host (d.backing = .hostpath)) :=
    MiniCluster.Joined.withOsd ⟨_, _, _, rfl, rfl, rfl⟩ ..
  have hruns := h.runs.withOsd d hnew
  rw [hjoined] at hruns ⊢
  refine ⟨hruns, hperm.nodup_iff.2 h.distinct, ?_, h.object, h.healthy, h.replies, h.listings,
    h.answers, hpods.trans h.toolboxPods, fun hpos => ?_⟩
  · rw [hperm.length_eq]
    exact h.few
  · rw [NameMap.contains, htoolbox]
    exact h.toolbox hpos

/-- The disks that are to become OSDs are replaced by others. -/
theorem Assembled.withPending {l : List (UInt32 × String)}
    (h : Assembled devices toolboxes (l.map Prod.fst ++ toCome) m) :
    Assembled devices toolboxes toCome (m.withPending l) := by
  have hosds : (waiting l).map Device.osd = l.map Prod.fst := by simp [waiting]
  have hsub : (l.map Prod.fst ++ toCome ++ devices.map Device.osd).Sublist
      (l.map Prod.fst ++ toCome ++ (devices ++ waiting m.pending).map Device.osd) := by
    rw [List.map_append]
    exact (List.sublist_append_left ..).append_left _
  have hperm : (toCome ++ (devices ++ waiting l).map Device.osd).Perm
      (l.map Prod.fst ++ toCome ++ devices.map Device.osd) := by
    rw [List.map_append, hosds, ← List.append_assoc, List.append_assoc (l.map Prod.fst)]
    exact List.perm_append_comm
  refine ⟨h.runs.of_eq rfl rfl rfl rfl, hperm.nodup_iff.2 (h.distinct.sublist hsub), ?_,
    h.object, h.healthy, h.replies, h.listings, h.answers, h.toolboxPods, h.toolbox⟩
  calc (toCome ++ (devices ++ waiting l).map Device.osd).length
      = (l.map Prod.fst ++ toCome ++ devices.map Device.osd).length := hperm.length_eq
    _ ≤ (l.map Prod.fst ++ toCome ++ (devices ++ waiting m.pending).map Device.osd).length :=
      hsub.length_le
    _ < UInt32.size := h.few

/-- A piece is added. -/
theorem Assembled.addTo {piece : Piece} (h : Assembled devices toolboxes (piece.osds ++ toCome) m)
    (hreport : ∀ report, piece = .report report → Healthy report) :
    Assembled (devices ++ piece.devices) (toolboxes + piece.toolboxes) toCome
      (piece.addTo m) := by
  have hnone : devices ++ [] = devices := List.append_nil devices
  cases piece with
  | nodes names =>
      change Assembled (devices ++ []) toolboxes toCome (m.withNodes names)
      rw [hnone]
      exact ⟨h.runs.of_eq rfl rfl rfl rfl, h.distinct, h.few, h.object, h.healthy, h.replies,
        h.listings, h.answers, h.toolboxPods, h.toolbox⟩
  | toolbox =>
      have hselected : toolboxPod.selectedBy "app=rook-ceph-tools" = true :=
        Owner.selectedBy_toolbox (o := .toolbox) rfl
      have hone : [toolboxPod].filter (fun p => p.selectedBy "app=rook-ceph-tools") =
          List.replicate 1 toolboxPod := by simp [hselected]
      change Assembled (devices ++ []) (toolboxes + 1) toCome m.withToolbox
      rw [hnone]
      exact Assembled.run_app (o := .toolbox) h rfl (by decide) 1 hone fun _ => rfl
  | operator image =>
      have hselected : (MiniCluster.appPod "rook-ceph-operator" "-6d9c4c7b8-lq4z2"
          image).selectedBy "app=rook-ceph-tools" = false :=
        Owner.selectedBy_toolbox (o := .operator) rfl
      change Assembled (devices ++ []) (toolboxes + 0) toCome (m.withOperator image)
      rw [hnone]
      exact Assembled.run_app (o := .operator) h rfl (by decide) 0 (by simp [hselected]) nofun
  | osd n host hostpath =>
      cases hostpath with
      | true => exact Assembled.withOsd (d := ⟨n, host, .hostpath⟩) h
      | false => exact Assembled.withOsd (d := ⟨n, host, .block⟩) h
  | pending l =>
      change Assembled (devices ++ []) toolboxes toCome (m.withPending l)
      rw [hnone]
      exact h.withPending
  | report report =>
      change Assembled (devices ++ []) toolboxes toCome { m with report := report }
      rw [hnone]
      exact ⟨h.runs.of_eq rfl rfl rfl rfl, h.distinct, h.few, h.object, hreport report rfl,
        h.replies, h.listings, h.answers, h.toolboxPods, h.toolbox⟩

theorem assembled_foldl {pieces : List Piece}
    (h : Assembled devices toolboxes (pieces.flatMap Piece.osds) m)
    (hreports : ∀ report, .report report ∈ pieces → Healthy report) :
    Assembled (devices ++ pieces.flatMap Piece.devices)
      (toolboxes + (pieces.map Piece.toolboxes).sum) [] (pieces.foldl Piece.addTo m) := by
  induction pieces generalizing devices toolboxes m with
  | nil => simpa using h
  | cons piece pieces ih =>
      have hpiece : Assembled (devices ++ piece.devices) (toolboxes + piece.toolboxes)
          (pieces.flatMap Piece.osds) (piece.addTo m) := by
        refine h.addTo ?_
        rintro report rfl
        exact hreports report List.mem_cons_self
      have hrest := ih hpiece fun report hm => hreports report (List.mem_cons_of_mem _ hm)
      simpa [List.append_assoc, Nat.add_assoc] using hrest

/-- The OSDs of a layout run, and all commands are answered. -/
theorem Layout.assembled (l : Layout) (hfew : (l.pieces.flatMap Piece.osds).length < UInt32.size)
    (hreports : ∀ report, .report report ∈ l.pieces → Healthy report) :
    Assembled l.devices (l.pieces.map Piece.toolboxes).sum [] l.cluster := by
  have h := assembled_foldl (assembled_bare l.distinct hfew) hreports
  rw [List.nil_append, Nat.zero_add] at h
  exact h

/-- With one toolbox, every command is answered. -/
theorem Assembled.answering (h : Assembled devices 1 [] m) : Answering m where
  replies := h.replies
  listings := h.listings
  answers := h.answers
  healthy := h.healthy
  few := by
    have hfew := h.few
    rw [List.nil_append, List.length_map, List.length_append] at hfew
    rw [h.runs.length_osds]
    omega
  toolbox := by
    obtain ⟨d, hd⟩ := NameMap.contains_iff.1 (h.toolbox Nat.one_pos)
    obtain ⟨o, _, ⟨pod, _, rfl⟩, _⟩ := h.runs.deployments _ d hd
    exact ⟨_, hd, rfl⟩
  toolboxPods := h.toolboxPods

end OsdMigration
