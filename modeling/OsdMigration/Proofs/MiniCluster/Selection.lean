import OsdMigration.Proofs.MiniCluster.Convergence
import OsdMigration.Proofs.MiniCluster.Pods

set_option autoImplicit false

/-! # Pods selected by labels

A selector is written as a text and read again for every pod. The text that is made from labels asks
for exactly these labels (`selectedBy_encode_iff`). The deployment of an OSD knows its pods by such a
text, and the number in it is compared as a whole: it takes no pod of another OSD for its own, also
not if one number begins with the other (`selection_by_labels`).
-/

namespace OsdMigration

/-- What holds for the pairs of a map holds for what is found in it. -/
theorem NameMap.forall_get?_iff {α : Type} {m : NameMap α} {P : String → α → Prop} :
    (∀ name a, m.get? name = some a → P name a) ↔ ∀ q ∈ m.pairs, P q.1 q.2 :=
  ⟨fun h q hq => h q.1 q.2 (get?_eq_some_iff.2 hq),
    fun h name a hname => h (name, a) (get?_eq_some_iff.1 hname)⟩

namespace Cluster

/-- Labels that can stand in a selector: no name has a comma or an equals sign, and no value has a
comma. -/
def Labels.Plain (labels : Labels) : Prop :=
  ∀ name value, labels.get? name = some value → PlainName name ∧ ',' ∉ value.toList

/-- Labels have every pair that is asked for, with the same value. -/
def Labels.Cover (labels asked : Labels) : Prop :=
  ∀ name value, asked.get? name = some value → labels.get? name = some value

instance (labels : Labels) : Decidable labels.Plain :=
  decidable_of_iff _ NameMap.forall_get?_iff.symm

instance (labels asked : Labels) : Decidable (labels.Cover asked) :=
  decidable_of_iff _ NameMap.forall_get?_iff.symm

/-- The selector of plain labels selects the pods that have all of them. -/
theorem Pod.selectedBy_encode_iff {asked : Labels} (h : asked.Plain) (p : Pod) :
    p.selectedBy (Selector.encode asked) = true ↔ p.labels.Cover asked := by
  rw [Pod.selectedBy_encode (NameMap.forall_get?_iff.1 h), List.all_eq_true, Labels.Cover,
    NameMap.forall_get?_iff]
  exact forall₂_congr fun q _ => beq_iff_eq

/-- Nothing is asked for by no labels. -/
theorem Labels.cover_empty (labels : Labels) : labels.Cover .empty :=
  NameMap.forall_get?_iff.2 nofun

end Cluster

namespace MiniCluster

open Cluster

/-- The deployment of an OSD, when it asks for some number of pods. -/
def osdDeploymentAt (osd : UInt32) (host : String) (hostpath : Bool) (scale : Int) : Deployment :=
  deploymentFor (osdDeployment osd) (osdPod osd host hostpath) scale

/-- The pods of an OSD: the one that it starts with, and the one that is made when that is lost. -/
def osdPods (osd : UInt32) (host : String) (hostpath : Bool) : List Pod :=
  osdPod osd host hostpath :: fresh (osdDeployment osd, osdDeploymentAt osd host hostpath 1)

theorem labels_osdPods {osd : UInt32} {host : String} {hostpath : Bool} {p : Pod}
    (h : p ∈ osdPods osd host hostpath) : p.labels = osdLabels osd := by
  rcases List.mem_cons.1 h with rfl | h
  · rfl
  · rw [List.mem_singleton.1 h]
    rfl

/-- The deployment of an OSD takes a pod for its own if it has the labels of this OSD. -/
theorem owns_osdDeploymentAt {osd other : UInt32} {p : Pod} (h : p.labels = osdLabels other)
    (host : String) (hostpath : Bool) (scale : Int) :
    owns (osdDeploymentAt osd host hostpath scale) p = decide (other = osd) := by
  have hlabels : (osdPod osd host hostpath).labels = osdLabels osd := rfl
  rw [owns, osdDeploymentAt, deploymentFor, Option.any_some, ownSelector, Option.getD_some, hlabels]
  exact selectedBy_osdLabels h

theorem selection_by_labels :
    -- a pod is selected just if it has every pair that is asked for,
    (∀ asked : Labels, asked.Plain → ∀ p : Pod,
      p.selectedBy (Selector.encode asked) = true ↔ p.labels.Cover asked) ∧
    -- every pod if there is none,
    (∀ p : Pod, p.selectedBy (Selector.encode .empty) = true) ∧
    -- and a pod of an OSD by the deployment of this OSD only
    ∀ (osd other : UInt32) (host host' : String) (hostpath hostpath' : Bool) (scale : Int),
      ∀ p ∈ osdPods other host' hostpath',
        owns (osdDeploymentAt osd host hostpath scale) p = true ↔ osd = other := by
  refine ⟨fun asked h p => Pod.selectedBy_encode_iff h p, fun p => ?_, ?_⟩
  · have hplain : Labels.Plain .empty := by decide
    exact (Pod.selectedBy_encode_iff hplain p).2 (Labels.cover_empty _)
  · intro osd other host host' hostpath hostpath' scale p hp
    rw [owns_osdDeploymentAt (labels_osdPods hp), decide_eq_true_iff]
    exact eq_comm

/-- The labels of OSD 1, and one whose value has an equals sign. -/
def labelsOfOne : Labels :=
  .ofList [("app", "rook-ceph-osd"), ("ceph-osd-id", "1"), ("place", "rack=1")]

/-- A pod with all of them is selected by them. One of OSD 11 is not, and is none of OSD 1. -/
theorem eleven_told_from_one : labelsOfOne.Plain ∧
    Pod.selectedBy { metadata := { labels := some labelsOfOne } } (Selector.encode labelsOfOne) =
      true ∧
    ¬ Pod.selectedBy { metadata := { labels := some (labelsOfOne.insert "ceph-osd-id" "11") } }
      (Selector.encode labelsOfOne) = true ∧
    ¬ owns (osdDeploymentAt 1 "10.0.0.1" true 1) (osdPod 11 "10.0.0.1" true) = true := by
  have hplain : labelsOfOne.Plain := by decide +kernel
  obtain ⟨hselected, _, howns⟩ := selection_by_labels
  refine ⟨hplain, (hselected _ hplain _).2 fun _ _ => id, fun h => ?_, fun h => ?_⟩
  · have hcover := (hselected _ hplain _).1 h
    exact absurd hcover (by decide +kernel)
  · have hsame := (howns 1 11 _ _ _ _ _ _ List.mem_cons_self).1 h
    exact absurd hsame (by decide)

end MiniCluster

end OsdMigration
