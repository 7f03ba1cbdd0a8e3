import Mathlib.Data.List.Basic
import Mathlib.Data.List.Nodup
import OsdMigration.Proofs.Cluster.Scaling
import OsdMigration.Proofs.MiniCluster.Newcomer

set_option autoImplicit false

/-! # Reconciling converges

The deployments get what they ask for one after the other, all of them on the same list of pods.
What one deployment does to the list is in one equation (`settle_eq`). If no pod is one of two
deployments, it does not disturb what the others find there (`any_settle`), so the pods after all
of them are known (`settleAll_eq`): every deployment has what it asks for, and reconciling once
more changes nothing (`reconcile_converges`).
-/

namespace OsdMigration.MiniCluster

open Cluster

/-! ## Whose pods are whose -/

/-- Whether a pod is one of a deployment. -/
def owns (d : Deployment) (p : Pod) : Bool :=
  d.spec.any fun spec => p.selectedBy (ownSelector spec)

/-- Whether a deployment asks for no pods. -/
def wantsNone (d : Deployment) : Bool := d.spec.any fun spec => desired spec = 0

/-- Whether a deployment has a spec and the labels of the pods that it makes are its own. -/
def makesOwn (d : Deployment) : Bool :=
  d.spec.any fun spec =>
    (Selector.ofText (ownSelector spec)).accepts (spec.template.labels.getD .empty)

/-- Whether a pod is one of a deployment that asks for no pods. -/
def swept (entries : List (String × Deployment)) (p : Pod) : Bool :=
  entries.any fun q => wantsNone q.2 && owns q.2 p

/-- The pods that can be made for a deployment. -/
def fresh (q : String × Deployment) : List Pod := q.2.spec.toList.map (freshPod q.1)

/-- The pod that is missing of a deployment. -/
def missing (pods : List Pod) (q : String × Deployment) : List Pod :=
  if wantsNone q.2 || pods.any (owns q.2) then [] else fresh q

/-- Every deployment makes pods of its own, and no pod that there is or that can be made is one of
two deployments. -/
structure Apart (entries : List (String × Deployment)) (pods : List Pod) : Prop where
  own : ∀ q ∈ entries, makesOwn q.2 = true
  one : ∀ p ∈ pods ++ entries.flatMap fresh, ∀ q ∈ entries, ∀ q' ∈ entries,
    owns q.2 p = true → owns q'.2 p = true → q.1 = q'.1

instance (entries : List (String × Deployment)) (pods : List Pod) :
    Decidable (Apart entries pods) :=
  decidable_of_iff (_ ∧ _) ⟨fun h => ⟨h.1, h.2⟩, fun h => ⟨h.own, h.one⟩⟩

variable {q q' : String × Deployment} {entries : List (String × Deployment)} {pods : List Pod}
  {p : Pod}

theorem mem_missing (h : p ∈ missing pods q) :
    wantsNone q.2 = false ∧ p ∈ fresh q := by
  unfold missing at h
  by_cases hc : (wantsNone q.2 || pods.any (owns q.2)) = true
  · rw [if_pos hc] at h
    cases h
  · rw [if_neg hc] at h
    rw [Bool.or_eq_true, not_or] at hc
    exact ⟨Bool.eq_false_iff.2 hc.1, h⟩

theorem mem_possible (hq : q ∈ entries) (hp : p ∈ fresh q) :
    p ∈ pods ++ entries.flatMap fresh :=
  List.mem_append_right _ (List.mem_flatMap.2 ⟨q, hq, hp⟩)

namespace Apart

theorem exists_spec (h : Apart entries pods) (hq : q ∈ entries) : ∃ spec, q.2.spec = some spec ∧
    (Selector.ofText (ownSelector spec)).accepts (spec.template.labels.getD .empty) = true :=
  (Option.any_eq_true _ _).1 (h.own q hq)

theorem owns_fresh (h : Apart entries pods) (hq : q ∈ entries) (hp : p ∈ fresh q) :
    owns q.2 p = true := by
  obtain ⟨spec, hspec, haccepts⟩ := h.exists_spec hq
  rw [fresh, hspec, Option.toList_some, List.map_singleton, List.mem_singleton] at hp
  rw [owns, hspec, hp]
  exact haccepts

/-- A pod of one deployment is not one of another. -/
theorem alone (h : Apart entries pods) (hp : p ∈ pods ++ entries.flatMap fresh) (hq : q ∈ entries)
    (hq' : q' ∈ entries) (hne : q.1 ≠ q'.1) (ho : owns q.2 p = true) : owns q'.2 p = false :=
  Bool.eq_false_iff.2 fun ho' => hne (h.one p hp q hq q' hq' ho ho')

/-- A pod of a deployment that asks for pods is not swept away by any. -/
theorem not_swept (h : Apart entries pods) (hnames : (entries.map Prod.fst).Nodup)
    (hp : p ∈ pods ++ entries.flatMap fresh) (hq : q ∈ entries) (hwants : wantsNone q.2 = false)
    (ho : owns q.2 p = true) : swept entries p = false := by
  refine List.any_eq_false.2 fun q' hq' => ?_
  by_cases hname : q.1 = q'.1
  · obtain rfl : q = q' := List.inj_on_of_nodup_map hnames hq hq' hname
    simp [hwants]
  · simp [h.alone hp hq hq' hname ho]

end Apart

/-! ## One deployment after the other -/

/-- Settling a deployment sweeps its pods away if it asks for none, and makes the pod that is
missing. -/
theorem settle_eq (q : String × Deployment) (pods : List Pod) :
    settle q pods = (pods.filter fun p => !(wantsNone q.2 && owns q.2 p)) ++ missing pods q := by
  unfold missing fresh
  cases hspec : q.2.spec with
  | none => simp [settle_none hspec, wantsNone, hspec]
  | some spec =>
      have hwants : wantsNone q.2 = decide (desired spec = 0) := by rw [wantsNone, hspec]; rfl
      have howns : owns q.2 = fun p => p.selectedBy (ownSelector spec) := by
        funext p
        rw [owns, hspec]
        rfl
      rw [settle_some hspec, settlePods, hwants, howns]
      by_cases hd : desired spec = 0
      · simp [hd]
      · by_cases hany : pods.any (fun p => p.selectedBy (ownSelector spec)) = true
        · simp only [hd, hany, if_true, if_false, decide_false, Bool.false_and, Bool.or_true,
            Bool.not_false, List.filter_true, List.append_nil]
        · simp only [hd, hany, if_false, decide_false, Bool.false_and, Bool.false_or,
            Bool.not_false, List.filter_true]
          rfl

theorem Apart.settled (h : Apart (q :: entries) pods) : Apart entries (settle q pods) where
  own := fun q' hq' => h.own q' (List.mem_cons_of_mem _ hq')
  one := by
    intro p hp q₁ hq₁ q₂ hq₂
    refine h.one p ?_ q₁ (List.mem_cons_of_mem _ hq₁) q₂ (List.mem_cons_of_mem _ hq₂)
    rw [List.flatMap_cons]
    rw [settle_eq] at hp
    rcases List.mem_append.1 hp with hp | hp
    · rcases List.mem_append.1 hp with hp | hp
      · exact List.mem_append_left _ (List.mem_filter.1 hp).1
      · exact List.mem_append_right _ (List.mem_append_left _ (mem_missing hp).2)
    · exact List.mem_append_right _ (List.mem_append_right _ hp)

/-- Settling one deployment gives no pods to another and takes none from it. -/
theorem any_settle (h : Apart (q :: entries) pods) (hq' : q' ∈ entries) (hne : q.1 ≠ q'.1) :
    (settle q pods).any (owns q'.2) = pods.any (owns q'.2) := by
  have hmem : q' ∈ q :: entries := List.mem_cons_of_mem _ hq'
  have hmade : (missing pods q).any (owns q'.2) = false := by
    refine List.any_eq_false.2 fun p hp => ?_
    have hfresh := (mem_missing hp).2
    rw [h.alone (mem_possible List.mem_cons_self hfresh) List.mem_cons_self hmem hne
      (h.owns_fresh List.mem_cons_self hfresh)]
    exact Bool.false_ne_true
  have hkept : ∀ p ∈ pods,
      ((!(wantsNone q.2 && owns q.2 p)) && owns q'.2 p) = owns q'.2 p := by
    intro p hp
    by_cases ho : owns q'.2 p = true
    · have hq : owns q.2 p = false :=
        h.alone (List.mem_append_left _ hp) hmem List.mem_cons_self hne.symm ho
      simp [hq]
    · simp [ho]
  calc (settle q pods).any (owns q'.2)
      = (pods.filter fun p => !(wantsNone q.2 && owns q.2 p)).any (owns q'.2) := by
        rw [settle_eq, List.any_append, hmade, Bool.or_false]
    _ = pods.any fun p => (!(wantsNone q.2 && owns q.2 p)) && owns q'.2 p := List.any_filter
    _ = pods.any (owns q'.2) := by
        rw [Bool.eq_iff_iff, List.any_eq_true, List.any_eq_true]
        exact exists_congr fun p => and_congr_right fun hp => by rw [hkept p hp]

/-- The pods after all deployments got what they ask for, on any list of pods. -/
theorem settleAll_eq (hnames : (entries.map Prod.fst).Nodup)
    (h : Apart entries pods) :
    settleAll entries pods =
      (pods.filter fun p => !swept entries p) ++ entries.flatMap (missing pods) := by
  induction entries generalizing pods with
  | nil => simp [settleAll, swept]
  | cons q entries ih =>
      obtain ⟨hnew, hrest⟩ := List.nodup_cons.1 hnames
      have hq : ∀ q' ∈ entries, q.1 ≠ q'.1 := fun q' hq' he =>
        hnew (List.mem_map.2 ⟨q', hq', he.symm⟩)
      -- what the others lack is the same before and after the first one is settled
      have hmissing : entries.flatMap (missing (settle q pods)) =
          entries.flatMap (missing pods) := by
        refine List.flatMap_congr fun q' hq' => ?_
        rw [missing, missing, any_settle h hq' (hq q' hq')]
      -- and the pod that is made for it is not swept away
      have hstays : (missing pods q).filter (fun p => !swept entries p) = missing pods q := by
        refine List.filter_eq_self.2 fun p hp => ?_
        obtain ⟨hwants, hp⟩ := mem_missing hp
        have hswept : swept (q :: entries) p = false :=
          h.not_swept hnames (mem_possible List.mem_cons_self hp) List.mem_cons_self hwants
            (h.owns_fresh List.mem_cons_self hp)
        rw [swept, List.any_cons, Bool.or_eq_false_iff] at hswept
        rw [Bool.not_eq_true']
        exact hswept.2
      have hkept : (pods.filter fun p => !(wantsNone q.2 && owns q.2 p)).filter
          (fun p => !swept entries p) = pods.filter fun p => !swept (q :: entries) p := by
        rw [List.filter_filter]
        refine List.filter_congr fun p _ => ?_
        rw [swept, swept, List.any_cons, Bool.not_or, Bool.and_comm]
      calc settleAll (q :: entries) pods
          = settleAll entries (settle q pods) := settleAll_cons q entries pods
        _ = (settle q pods).filter (fun p => !swept entries p)
              ++ entries.flatMap (missing (settle q pods)) := ih hrest h.settled
        _ = (pods.filter (fun p => !swept (q :: entries) p) ++ missing pods q)
              ++ entries.flatMap (missing pods) := by
            rw [hmissing, settle_eq, List.filter_append, hkept, hstays]
        _ = (pods.filter fun p => !swept (q :: entries) p)
              ++ (q :: entries).flatMap (missing pods) := by
            rw [List.append_assoc, List.flatMap_cons]

/-! ## Every deployment has what it asks for -/

theorem content_of {d : Deployment} (h : wantsNone d = false ↔ ∃ p ∈ pods, owns d p = true) :
    Content pods d := by
  intro spec hspec
  have hspec : d.spec = some spec := hspec
  simp only [wantsNone, owns, hspec, Option.any_some, decide_eq_false_iff_not] at h
  exact h

/-- A deployment that asks for pods has one: it had one that stays, or one was made for it. -/
theorem exists_owned (hnames : (entries.map Prod.fst).Nodup) (h : Apart entries pods)
    (hq : q ∈ entries) (hwants : wantsNone q.2 = false) :
    ∃ p ∈ settleAll entries pods, owns q.2 p = true := by
  rw [settleAll_eq hnames h]
  by_cases hany : pods.any (owns q.2) = true
  · obtain ⟨p, hp, ho⟩ := List.any_eq_true.1 hany
    have hswept := h.not_swept hnames (List.mem_append_left _ hp) hq hwants ho
    refine ⟨p, List.mem_append_left _ (List.mem_filter.2 ⟨hp, ?_⟩), ho⟩
    rw [hswept]
    rfl
  · obtain ⟨spec, hspec, _⟩ := h.exists_spec hq
    have hfresh : freshPod q.1 spec ∈ fresh q := by simp [fresh, hspec]
    have hmissing : freshPod q.1 spec ∈ missing pods q := by
      rw [missing, hwants, Bool.false_or, if_neg hany]
      exact hfresh
    exact ⟨freshPod q.1 spec,
      List.mem_append_right _ (List.mem_flatMap.2 ⟨q, hq, hmissing⟩), h.owns_fresh hq hfresh⟩

/-- A deployment with a pod asks for pods: if it did not, the pod would have been swept away, or
would not have been made. -/
theorem wantsNone_of_owned (hnames : (entries.map Prod.fst).Nodup) (h : Apart entries pods)
    (hq : q ∈ entries) (hp : p ∈ settleAll entries pods) (ho : owns q.2 p = true) :
    wantsNone q.2 = false := by
  rw [settleAll_eq hnames h] at hp
  rcases List.mem_append.1 hp with hp | hp
  · obtain ⟨_, hkept⟩ := List.mem_filter.1 hp
    rw [Bool.not_eq_true', swept, List.any_eq_false] at hkept
    refine Bool.eq_false_iff.2 fun hwants => hkept q hq ?_
    rw [hwants, ho]
    rfl
  · obtain ⟨q', hq', hp⟩ := List.mem_flatMap.1 hp
    obtain ⟨hwants, hp⟩ := mem_missing hp
    have hname : q.1 = q'.1 :=
      h.one p (mem_possible hq' hp) q hq q' hq' ho (h.owns_fresh hq' hp)
    obtain rfl : q = q' := List.inj_on_of_nodup_map hnames hq hq' hname
    exact hwants

theorem settleAll_contents (hnames : (entries.map Prod.fst).Nodup)
    (h : Apart entries pods) (hq : q ∈ entries) : Content (settleAll entries pods) q.2 :=
  content_of ⟨exists_owned hnames h hq, fun ⟨_, hp, ho⟩ => wantsNone_of_owned hnames h hq hp ho⟩

/-! ## The deployments themselves -/

theorem rolledOut_rolledOut (d : Deployment) : rolledOut (rolledOut d) = rolledOut d := by
  obtain ⟨metadata, spec, status⟩ := d
  cases spec <;> rfl

theorem atScale_rolledOut {d : Deployment} {spec : DeploymentSpec} (h : d.spec = some spec) :
    (rolledOut d).atScale (desired spec) = true := by
  rw [rolledOut, h]
  simp [Deployment.atScale, converged]

theorem reconcile_deployments_pairs (m : MiniCluster) :
    m.reconcile.deployments.pairs =
      if m.autoRollout then m.deployments.pairs.map fun q => (q.1, rolledOut q.2)
      else m.deployments.pairs := by
  unfold reconcile
  by_cases hr : m.autoRollout = true
  · simp only [if_pos hr]
    rfl
  · simp only [if_neg hr]

/-- A deployment of the reconciled cluster stands for one of the cluster before. -/
theorem exists_of_mem_reconcile {m : MiniCluster} (h : q ∈ m.reconcile.deployments.pairs) :
    ∃ d, (q.1, d) ∈ m.deployments.pairs ∧ q.2.spec = d.spec ∧
      (m.autoRollout = true → q.2 = rolledOut d) := by
  rw [reconcile_deployments_pairs] at h
  by_cases hr : m.autoRollout = true
  · rw [if_pos hr] at h
    obtain ⟨q₀, hq₀, rfl⟩ := List.mem_map.1 h
    exact ⟨q₀.2, hq₀, spec_rolledOut q₀.2, fun _ => rfl⟩
  · rw [if_neg hr] at h
    exact ⟨q.2, h, rfl, fun hr' => absurd hr' hr⟩

theorem Content.of_spec_eq {d d' : Deployment} (h : Content pods d) (he : d'.spec = d.spec) :
    Content pods d' := by
  intro spec hspec
  rw [he] at hspec
  exact h spec hspec

/-! ## The cluster -/

/-- In a cluster at rest whose deployments have come to their scales, there is nothing to do. -/
theorem reconcile_of_atRest {m : MiniCluster} (h : AtRest m)
    (hr : m.autoRollout = true → ∀ q ∈ m.deployments.pairs, rolledOut q.2 = q.2) :
    m.reconcile = m := by
  have hpods : settleAll m.deployments.pairs m.pods = m.pods := settleAll_content h
  have hdeployments : (if m.autoRollout then m.deployments.mapValues fun _ d => rolledOut d
      else m.deployments) = m.deployments := by
    by_cases hroll : m.autoRollout = true
    · rw [if_pos hroll]
      refine NameMap.ext ?_
      calc m.deployments.pairs.map (fun q => (q.1, rolledOut q.2))
          = m.deployments.pairs.map id :=
            List.map_congr_left fun q hq => Prod.ext rfl (hr hroll q hq)
        _ = m.deployments.pairs := List.map_id _
    · rw [if_neg hroll]
  rw [reconcile, hpods, hdeployments]

/-- What has become of a cluster that was reconciled. -/
structure Converged (m : MiniCluster) : Prop where
  /-- A deployment that asks for no pods has none, and any other one has pods. -/
  rest : AtRest m.reconcile
  /-- The pods of the deployments that ask for none are gone. What is missing of the others is
  made, in the order of their names. -/
  pods : m.reconcile.pods = (m.pods.filter fun p => !swept m.deployments.pairs p)
    ++ m.deployments.pairs.flatMap (missing m.pods)
  /-- The deployments ask for what they asked for. -/
  specs : ∀ name, (m.reconcile.deployments.get? name).map Deployment.spec =
    (m.deployments.get? name).map Deployment.spec
  /-- If deployments come to their scales at once, all of them have. -/
  scales : m.autoRollout = true → ∀ q ∈ m.reconcile.deployments.pairs, ∃ spec,
    q.2.spec = some spec ∧ q.2.atScale (desired spec) = true
  /-- There is nothing left to do. -/
  again : m.reconcile.reconcile = m.reconcile

theorem reconcile_converges {m : MiniCluster} (h : Apart m.deployments.pairs m.pods) :
    Converged m := by
  have hnames : m.deployments.keys.Nodup := by
    refine m.deployments.keys_pairwise.imp ?_
    intro name name' hlt he
    rw [he] at hlt
    exact String.lt_irrefl _ hlt
  have hrest : AtRest m.reconcile := by
    intro q hq
    obtain ⟨d, hd, hspec, _⟩ := exists_of_mem_reconcile hq
    exact (settleAll_contents hnames h hd).of_spec_eq hspec
  refine ⟨hrest, settleAll_eq hnames h, ?_, ?_, reconcile_of_atRest hrest ?_⟩
  · intro name
    by_cases hr : m.autoRollout = true
    · simp only [reconcile, if_pos hr, NameMap.get?_mapValues, Option.map_map]
      congr 1
      funext d
      exact spec_rolledOut d
    · simp only [reconcile, if_neg hr]
  · intro hr q hq
    obtain ⟨d, hd, hspec, hrolled⟩ := exists_of_mem_reconcile hq
    obtain ⟨spec, hs, _⟩ := h.exists_spec hd
    refine ⟨spec, hspec.trans hs, ?_⟩
    rw [hrolled hr]
    exact atScale_rolledOut hs
  · intro hr q hq
    obtain ⟨d, _, _, hrolled⟩ := exists_of_mem_reconcile hq
    rw [hrolled hr, rolledOut_rolledOut]

/-- A cluster with an OSD that was scaled down, an operator that runs, and a toolbox that does not
say how many pods it asks for and has none. -/
def mixed : MiniCluster :=
  let m := (bare.withOperator "rook/ceph:v1.0.4").withOsd 0 "10.0.0.1" true
  let labels : Labels := .ofList [("app", "rook-ceph-tools")]
  let idle := deploymentFor (osdDeployment 0) (osdPod 0 "10.0.0.1" true) 0
  let tools : Deployment := { spec := some {
    owned := { labels := some labels }
    template := { metadata := some { labels := some labels } } } }
  { m with deployments :=
      (m.deployments.insert (osdDeployment 0) idle).insert "rook-ceph-tools" tools }

theorem mixed_converges : Apart mixed.deployments.pairs mixed.pods ∧ Converged mixed ∧
    mixed.pods.map (fun p => p.metadata.name) = [some "rook-ceph-operator-6d9c4c7b8-lq4z2",
      some "rook-ceph-osd-0-7c9f8d5b4-x2k9p"] ∧
    mixed.reconcile.pods.map (fun p => p.metadata.name) =
      [some "rook-ceph-operator-6d9c4c7b8-lq4z2", some "rook-ceph-tools-0"] := by
  have hapart : Apart mixed.deployments.pairs mixed.pods := by decide +kernel
  exact ⟨hapart, reconcile_converges hapart, by decide +kernel, by decide +kernel⟩

end OsdMigration.MiniCluster
