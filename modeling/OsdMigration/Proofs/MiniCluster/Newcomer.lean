import OsdMigration.MiniCluster.Reconcile
import OsdMigration.NameMap.Lemmas

set_option autoImplicit false

/-! # A new deployment in a cluster at rest

In a cluster in which every deployment has what it asks for, reconciling changes no pods. When a
deployment is added that asks for pods and has none, one pod is made for it, and this pod stays
unless a deployment behind it in the order of their names asks for no pods and takes it for one of
its own (`settleAll_sweeps`, `settleAll_spares`).
-/

namespace OsdMigration

namespace NameMap

variable {α : Type}

theorem exists_put_split {k : String} (a : α) {l : List (String × α)}
    (hsorted : l.Pairwise fun p q => p.1 < q.1) (hnew : ∀ q ∈ l, q.1 ≠ k) :
    ∃ before after, l = before ++ after ∧ put k a l = before ++ (k, a) :: after ∧
      (∀ q ∈ before, q.1 < k) ∧ ∀ q ∈ after, k < q.1 := by
  induction l with
  | nil => exact ⟨[], [], rfl, rfl, by simp, by simp⟩
  | cons q rest ih =>
      obtain ⟨name, b⟩ := q
      obtain ⟨hq, hrest⟩ := List.pairwise_cons.1 hsorted
      obtain ⟨hne, hnew⟩ := List.forall_mem_cons.1 hnew
      by_cases hlt : k < name
      · refine ⟨[], (name, b) :: rest, rfl, by rw [put, if_pos hlt]; rfl, by simp, ?_⟩
        exact List.forall_mem_cons.2 ⟨hlt, fun q hm => String.lt_trans hlt (hq q hm)⟩
      · obtain ⟨before, after, hl, hput, hbefore, hafter⟩ := ih hrest hnew
        have hname : name < k := Std.lt_of_le_of_ne (String.not_lt.1 hlt) hne
        refine ⟨(name, b) :: before, after, by rw [hl]; rfl, ?_,
          List.forall_mem_cons.2 ⟨hname, hbefore⟩, hafter⟩
        rw [put, if_neg hlt, if_neg hne.symm, hput]
        rfl

/-- Where a new name comes to stand. -/
theorem exists_insert_split {m : NameMap α} {k : String} (a : α) (hnew : m.get? k = none) :
    ∃ before after, m.pairs = before ++ after ∧
      (m.insert k a).pairs = before ++ (k, a) :: after ∧
      (∀ q ∈ before, q.1 < k) ∧ ∀ q ∈ after, k < q.1 := by
  refine exists_put_split a m.sorted fun q hq hk => ?_
  obtain ⟨name, b⟩ := q
  obtain rfl : name = k := hk
  rw [get?_eq_some_iff.2 hq] at hnew
  cases hnew

end NameMap

namespace MiniCluster

open Cluster

/-- A deployment has what it asks for: pods of its own exactly if it asks for any. -/
def Content (pods : List Pod) (d : Deployment) : Prop :=
  ∀ spec ∈ d.spec, desired spec ≠ 0 ↔ ∃ p ∈ pods, p.selectedBy (ownSelector spec) = true

/-- Every deployment has what it asks for. -/
def AtRest (m : MiniCluster) : Prop := ∀ q ∈ m.deployments.pairs, Content m.pods q.2

/-- A deployment asks for no pods and takes a pod for one of its own. -/
def Sweeps (p : Pod) (d : Deployment) : Prop :=
  ∃ spec ∈ d.spec, desired spec = 0 ∧ p.selectedBy (ownSelector spec) = true

/-- The pods after one deployment got what it asks for. -/
def settle (q : String × Deployment) (pods : List Pod) : List Pod :=
  match q.2.spec with
  | some spec => settlePods q.1 spec pods
  | none => pods

theorem settleAll_cons (q : String × Deployment) (entries : List (String × Deployment))
    (pods : List Pod) : settleAll (q :: entries) pods = settleAll entries (settle q pods) := rfl

theorem settle_some {q : String × Deployment} {spec : DeploymentSpec} (h : q.2.spec = some spec)
    (pods : List Pod) : settle q pods = settlePods q.1 spec pods := by
  rw [settle, h]

theorem settle_none {q : String × Deployment} (h : q.2.spec = none) (pods : List Pod) :
    settle q pods = pods := by
  rw [settle, h]

theorem settleAll_append (front back : List (String × Deployment)) (pods : List Pod) :
    settleAll (front ++ back) pods = settleAll back (settleAll front pods) := by
  induction front generalizing pods with
  | nil => rfl
  | cons q front ih => exact ih _

variable {q : String × Deployment} {entries : List (String × Deployment)} {pods : List Pod}
  {p : Pod}

theorem mem_settle (h : p ∈ settle q pods) :
    p ∈ pods ∨ ∃ spec ∈ q.2.spec, p = freshPod q.1 spec := by
  cases hspec : q.2.spec with
  | none =>
      rw [settle_none hspec] at h
      exact .inl h
  | some spec =>
      rw [settle_some hspec, settlePods] at h
      split at h
      · exact .inl (List.mem_filter.1 h).1
      · split at h
        · exact .inl h
        · rcases List.mem_append.1 h with h | h
          · exact .inl h
          · exact .inr ⟨spec, rfl, List.mem_singleton.1 h⟩

/-- Pods are those that there were and those that are made for deployments. -/
theorem mem_settleAll (h : p ∈ settleAll entries pods) :
    p ∈ pods ∨ ∃ q ∈ entries, ∃ spec ∈ q.2.spec, p = freshPod q.1 spec := by
  induction entries generalizing pods with
  | nil => exact .inl h
  | cons q entries ih =>
      rcases ih h with hp | ⟨q', hq', hp⟩
      · rcases mem_settle hp with hp | hp
        · exact .inl hp
        · exact .inr ⟨q, List.mem_cons_self, hp⟩
      · exact .inr ⟨q', List.mem_cons_of_mem _ hq', hp⟩

/-! ## Deployments at rest -/

theorem filter_unselected {selector : String} (h : ¬ ∃ p ∈ pods, p.selectedBy selector = true) :
    (pods.filter fun p => !p.selectedBy selector) = pods := by
  refine List.filter_eq_self.2 fun p hp => ?_
  have hnone : ¬ p.selectedBy selector = true := fun hs => h ⟨p, hp, hs⟩
  simpa using hnone

/-- A deployment that has what it asks for is left as it is. -/
theorem settle_content (h : Content pods q.2) : settle q pods = pods := by
  cases hspec : q.2.spec with
  | none => exact settle_none hspec pods
  | some spec =>
      have hiff := h spec hspec
      rw [settle_some hspec, settlePods]
      by_cases hd : desired spec = 0
      · rw [if_pos hd]
        exact filter_unselected fun hp => hiff.2 hp hd
      · rw [if_neg hd, if_pos (List.any_eq_true.2 (hiff.1 hd))]

theorem settleAll_content (h : ∀ q ∈ entries, Content pods q.2) :
    settleAll entries pods = pods := by
  induction entries with
  | nil => rfl
  | cons q entries ih =>
      obtain ⟨hq, hrest⟩ := List.forall_mem_cons.1 h
      rw [settleAll_cons, settle_content hq, ih hrest]

/-- A deployment that sweeps a new pod away leaves the pods that there were. -/
theorem settle_sweeps (h : Content pods q.2) (hs : Sweeps p q.2) :
    settle q (pods ++ [p]) = pods := by
  obtain ⟨spec, hspec, hd, hp⟩ := hs
  have hnone := filter_unselected fun hp => (h spec hspec).2 hp hd
  have hswept : [p].filter (fun p => !p.selectedBy (ownSelector spec)) = [] := by simp [hp]
  rw [settle_some hspec, settlePods, if_pos hd, List.filter_append, hnone, hswept,
    List.append_nil]

/-- A deployment at rest that does not sweep a new pod away leaves it alone. -/
theorem settle_spares (h : Content pods q.2) (hs : ¬ Sweeps p q.2) :
    settle q (pods ++ [p]) = pods ++ [p] := by
  refine settle_content fun spec hspec => ?_
  by_cases hd : desired spec = 0
  · refine iff_of_false (fun hne => hne hd) ?_
    rintro ⟨p', hp', hsel⟩
    rcases List.mem_append.1 hp' with hp' | hp'
    · exact (h spec hspec).2 ⟨p', hp', hsel⟩ hd
    · rw [List.mem_singleton.1 hp'] at hsel
      exact hs ⟨spec, hspec, hd, hsel⟩
  · obtain ⟨p', hp', hsel⟩ := (h spec hspec).1 hd
    exact iff_of_true hd ⟨p', List.mem_append_left _ hp', hsel⟩

/-- Nothing is left of a new pod if some deployment sweeps it away. -/
theorem settleAll_sweeps (h : ∀ q ∈ entries, Content pods q.2)
    (hs : ∃ q ∈ entries, Sweeps p q.2) : settleAll entries (pods ++ [p]) = pods := by
  induction entries with
  | nil =>
      obtain ⟨_, hq, _⟩ := hs
      cases hq
  | cons q entries ih =>
      obtain ⟨hq, hrest⟩ := List.forall_mem_cons.1 h
      by_cases hswept : Sweeps p q.2
      · rw [settleAll_cons, settle_sweeps hq hswept, settleAll_content hrest]
      · rw [settleAll_cons, settle_spares hq hswept]
        obtain ⟨q', hq', hs'⟩ := hs
        rcases List.mem_cons.1 hq' with rfl | hq'
        · exact absurd hs' hswept
        · exact ih hrest ⟨q', hq', hs'⟩

/-- A new pod stays if no deployment sweeps it away. -/
theorem settleAll_spares (h : ∀ q ∈ entries, Content pods q.2)
    (hs : ∀ q ∈ entries, ¬ Sweeps p q.2) : settleAll entries (pods ++ [p]) = pods ++ [p] := by
  induction entries with
  | nil => rfl
  | cons q entries ih =>
      obtain ⟨hq, hrest⟩ := List.forall_mem_cons.1 h
      obtain ⟨hsq, hsrest⟩ := List.forall_mem_cons.1 hs
      rw [settleAll_cons, settle_spares hq hsq, ih hrest hsrest]

end MiniCluster

end OsdMigration
