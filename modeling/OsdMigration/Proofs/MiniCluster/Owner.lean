import OsdMigration.Proofs.MiniCluster.Operations

set_option autoImplicit false

/-! # Owners of pods

Every pod of the cluster in memory is one of an OSD, of the toolbox or of the operator, and its
labels say of which. So the selector of an owner selects the pods of this owner and no others
(`Owner.selectedBy_encode`). As long as each owner has the pods that its deployment asks for,
reconciling changes nothing (`Kept.reconcile`); where one of them is scaled down or has lost its
pods, it changes nothing else.
-/

namespace OsdMigration.MiniCluster

open Cluster

/-- What a pod belongs to. -/
inductive Owner where
  | osd (osd : UInt32)
  | toolbox
  | operator
deriving DecidableEq

namespace Owner

/-- The name of the application. -/
def app : Owner → String
  | .osd _ => "rook-ceph-osd"
  | .toolbox => "rook-ceph-tools"
  | .operator => "rook-ceph-operator"

/-- The name of the deployment. -/
def deployment : Owner → String
  | .osd n => osdDeployment n
  | .toolbox => "rook-ceph-tools"
  | .operator => "rook-ceph-operator"

/-- The labels of its pods. -/
def labels : Owner → Labels
  | .osd n => osdLabels n
  | .toolbox => .ofList [("app", "rook-ceph-tools")]
  | .operator => .ofList [("app", "rook-ceph-operator")]

theorem deployment_injective {o o' : Owner} (h : o.deployment = o'.deployment) : o = o' := by
  have happ : "rook-ceph-tools" ≠ "rook-ceph-operator" := by decide
  have htools : ∀ n, "rook-ceph-tools" ≠ osdDeployment n := fun n =>
    ne_osdDeployment n (by decide)
  have hoperator : ∀ n, "rook-ceph-operator" ≠ osdDeployment n := fun n =>
    ne_osdDeployment n (by decide)
  cases o with
  | osd n =>
      cases o' with
      | osd n' => rw [osdDeployment_injective h]
      | toolbox => exact absurd h.symm (htools n)
      | operator => exact absurd h.symm (hoperator n)
  | toolbox =>
      cases o' with
      | osd n' => exact absurd h (htools n')
      | toolbox => rfl
      | operator => exact absurd h happ
  | operator =>
      cases o' with
      | osd n' => exact absurd h (hoperator n')
      | toolbox => exact absurd h.symm happ
      | operator => rfl

theorem get?_labels_app (o : Owner) : o.labels.get? "app" = some o.app := by
  cases o with
  | osd n => exact get?_osdLabels_app n
  | toolbox => rfl
  | operator => rfl

theorem get?_labels_number (o : Owner) :
    o.labels.get? "ceph-osd-id" = match o with
      | .osd n => some (toString n)
      | _ => none := by
  cases o with
  | osd n => exact get?_osdLabels_number n
  | toolbox => rfl
  | operator => rfl

/-- A selector that asks for an application. -/
theorem selectedBy_app {o : Owner} {p : Pod} (h : p.labels = o.labels) {selector name : String}
    (hs : Selector.ofText selector = [.equals "app" name]) :
    p.selectedBy selector = decide (o.app = name) := by
  rw [Pod.selectedBy, hs, h]
  simp only [Selector.accepts, List.all_cons, List.all_nil, Selector.Term.accepts, get?_labels_app,
    Bool.and_true]
  rfl

theorem selectedBy_toolbox {o : Owner} {p : Pod} (h : p.labels = o.labels) :
    p.selectedBy "app=rook-ceph-tools" = decide (o = .toolbox) := by
  have hs : Selector.ofText "app=rook-ceph-tools" = [.equals "app" "rook-ceph-tools"] := by
    decide +kernel
  rw [selectedBy_app h hs]
  cases o <;> simp [app]

theorem selectedBy_operator {o : Owner} {p : Pod} (h : p.labels = o.labels) :
    p.selectedBy "app=rook-ceph-operator" = decide (o = .operator) := by
  have hs : Selector.ofText "app=rook-ceph-operator" = [.equals "app" "rook-ceph-operator"] := by
    decide +kernel
  rw [selectedBy_app h hs]
  cases o <;> simp [app]

/-- The selector of an owner selects its own pods. -/
theorem selectedBy_encode {o : Owner} {p : Pod} (h : p.labels = o.labels) (o' : Owner) :
    p.selectedBy (Selector.encode o'.labels) = decide (o = o') := by
  cases o' with
  | osd n' =>
      cases o with
      | osd n =>
          rw [labels, selectedBy_osdLabels h]
          simp
      | _ =>
          rw [labels, Pod.selectedBy_encode (plain_osdLabels n'), h, osdLabels_pairs]
          simp only [List.all_cons, List.all_nil, get?_labels_number, Bool.and_true]
          simp
  | toolbox => exact selectedBy_toolbox h
  | operator => exact selectedBy_operator h

end Owner

/-! ## Reconciling -/

/-- A deployment that an owner has while it runs. -/
def Owned (o : Owner) (d : Deployment) : Prop :=
  ∃ pod : Pod, pod.labels = o.labels ∧ d = deploymentFor o.deployment pod 1

/-- An owner has a pod. -/
def Served (o : Owner) (pods : List Pod) : Prop := ∃ p ∈ pods, p.labels = o.labels

theorem Served.append {o : Owner} {pods : List Pod} (h : Served o pods) (more : List Pod) :
    Served o (pods ++ more) := by
  obtain ⟨p, hp, hlabels⟩ := h
  exact ⟨p, List.mem_append_left _ hp, hlabels⟩

section

variable {o : Owner} {d : Deployment} {entries : List (String × Deployment)} {pods : List Pod}

theorem rolledOut_owned (h : Owned o d) : rolledOut d = d := by
  obtain ⟨pod, _, rfl⟩ := h
  rfl

/-- A deployment has one owner. -/
theorem Owned.unique {o' : Owner} (h : Owned o d) (h' : Owned o' d) : o' = o := by
  obtain ⟨pod, _, rfl⟩ := h
  obtain ⟨pod', _, he⟩ := h'
  have hname : some o.deployment = some o'.deployment :=
    congrArg (fun d : Deployment => d.metadata.name) he
  exact (Owner.deployment_injective (Option.some.inj hname)).symm

theorem Owned.spec (h : Owned o d) :
    ∃ spec, d.spec = some spec ∧ desired spec = 1 ∧ ownSelector spec = Selector.encode o.labels ∧
      ∀ name, (freshPod name spec).labels = o.labels := by
  obtain ⟨pod, hlabels, rfl⟩ := h
  refine ⟨_, rfl, rfl, ?_, fun name => ?_⟩
  · rw [← hlabels]
    rfl
  · rw [← hlabels]
    rfl

/-- A deployment with a pod is left as it is. -/
theorem settleAll_served (name : String) (h : Owned o d) (hs : Served o pods) :
    settleAll ((name, d) :: entries) pods = settleAll entries pods := by
  obtain ⟨spec, hspec, hdesired, hselector, _⟩ := h.spec
  obtain ⟨p, hp, hlabels⟩ := hs
  have hany : pods.any (fun p => p.selectedBy (ownSelector spec)) = true := by
    refine List.any_eq_true.2 ⟨p, hp, ?_⟩
    rw [hselector, Owner.selectedBy_encode hlabels, decide_eq_true rfl]
  have hne : desired spec ≠ 0 := by
    rw [hdesired]
    decide
  simp only [settleAll, hspec, settlePods, if_neg hne, if_pos hany]

/-- Where every deployment has a pod, all pods stay. -/
theorem settleAll_same (h : ∀ q ∈ entries, ∃ o, Owned o q.2 ∧ Served o pods) :
    settleAll entries pods = pods := by
  induction entries with
  | nil => rfl
  | cons q entries ih =>
      obtain ⟨name, d⟩ := q
      obtain ⟨o, ho, hs⟩ := h _ List.mem_cons_self
      rw [settleAll_served name ho hs]
      exact ih fun q hq => h q (List.mem_cons_of_mem _ hq)

/-! ### One OSD is scaled down -/

/-- The pods that do not belong to an OSD. -/
def sparing (osd : UInt32) (pods : List Pod) : List Pod :=
  pods.filter fun p => !p.selectedBy (Selector.encode (osdLabels osd))

theorem sparing_sparing (osd : UInt32) (pods : List Pod) :
    sparing osd (sparing osd pods) = sparing osd pods := by
  simp [sparing, List.filter_filter]

theorem Served.sparing {osd : UInt32} (h : Served o pods) (hne : o ≠ .osd osd) :
    Served o (sparing osd pods) := by
  obtain ⟨p, hp, hlabels⟩ := h
  refine ⟨p, List.mem_filter.2 ⟨hp, ?_⟩, hlabels⟩
  have hs := Owner.selectedBy_encode hlabels (.osd osd)
  rw [decide_eq_false hne] at hs
  simpa [Owner.labels] using hs

/-- An entry is that of the OSD that is scaled down, or one with a pod that stays. -/
def ScaledOr (osd : UInt32) (pods : List Pod) (d : Deployment) : Prop :=
  (∃ spec, d.spec = some spec ∧ Own osd 0 spec) ∨
    ∃ o, o ≠ .osd osd ∧ Owned o d ∧ Served o pods

theorem settleAll_scaled {osd : UInt32} (name : String)
    (h : ∃ spec, d.spec = some spec ∧ Own osd 0 spec) :
    settleAll ((name, d) :: entries) pods = settleAll entries (sparing osd pods) := by
  obtain ⟨spec, hspec, hown⟩ := h
  have hd : desired spec = 0 := by rw [desired, hown.replicas, Option.getD_some]
  have hselector : ownSelector spec = Selector.encode (osdLabels osd) := by
    rw [ownSelector, hown.owned, Option.getD_some]
  simp only [settleAll, hspec, settlePods, if_pos hd, hselector]
  rfl

theorem settleAll_sparing {osd : UInt32} (h : ∀ q ∈ entries, ScaledOr osd pods q.2) :
    settleAll entries (sparing osd pods) = sparing osd pods := by
  induction entries with
  | nil => rfl
  | cons q entries ih =>
      obtain ⟨name, d⟩ := q
      have hrest := ih fun q hq => h q (List.mem_cons_of_mem _ hq)
      rcases h _ List.mem_cons_self with hd | ⟨o, hne, ho, hs⟩
      · rw [settleAll_scaled name hd, sparing_sparing]
        exact hrest
      · rw [settleAll_served name ho (hs.sparing hne)]
        exact hrest

/-- The pods of the OSD go, and no others. -/
theorem settleAll_one_scaled {osd : UInt32} (h : ∀ q ∈ entries, ScaledOr osd pods q.2)
    (hown : ∃ q ∈ entries, ∃ spec, q.2.spec = some spec ∧ Own osd 0 spec) :
    settleAll entries pods = sparing osd pods := by
  induction entries with
  | nil =>
      obtain ⟨q, hq, _⟩ := hown
      cases hq
  | cons q entries ih =>
      obtain ⟨name, d⟩ := q
      have hrest : ∀ q ∈ entries, ScaledOr osd pods q.2 :=
        fun q hq => h q (List.mem_cons_of_mem _ hq)
      rcases h _ List.mem_cons_self with hd | ⟨o, hne, ho, hs⟩
      · rw [settleAll_scaled name hd]
        exact settleAll_sparing hrest
      · rw [settleAll_served name ho hs]
        refine ih hrest ?_
        obtain ⟨q, hq, spec, hspec, hq'⟩ := hown
        rcases List.mem_cons.1 hq with rfl | hq
        · -- the deployment of another owner asks for a pod
          obtain ⟨spec', hspec', hdesired, _⟩ := ho.spec
          obtain rfl : spec' = spec := Option.some.inj (hspec'.symm.trans hspec)
          rw [desired, hq'.replicas] at hdesired
          cases hdesired
        · exact ⟨q, hq, spec, hspec, hq'⟩

/-! ### One owner has lost its pods -/

/-- A deployment without pods gets one. -/
theorem settleAll_lost (name : String) (entries : List (String × Deployment))
    (hp : ∀ p ∈ pods, ∃ o : Owner, p.labels = o.labels)
    (h : Owned o d) (hs : ¬ Served o pods) :
    ∃ pod : Pod, pod.labels = o.labels ∧
      settleAll ((name, d) :: entries) pods = settleAll entries (pods ++ [pod]) := by
  obtain ⟨spec, hspec, hdesired, hselector, hfresh⟩ := h.spec
  have hany : ¬ pods.any (fun p => p.selectedBy (ownSelector spec)) = true := by
    intro hany
    obtain ⟨p, hm, hsel⟩ := List.any_eq_true.1 hany
    obtain ⟨o', hlabels⟩ := hp p hm
    rw [hselector, Owner.selectedBy_encode hlabels, decide_eq_true_iff] at hsel
    exact hs ⟨p, hm, hsel ▸ hlabels⟩
  have hne : desired spec ≠ 0 := by
    rw [hdesired]
    decide
  refine ⟨freshPod name spec, hfresh name, ?_⟩
  simp only [settleAll, hspec, settlePods, if_neg hne, if_neg hany]

/-- Where every deployment but those of one owner has a pod, at most pods of this owner are made,
and then every deployment has one. -/
theorem settleAll_one_lost {lost : Owner} (hp : ∀ p ∈ pods, ∃ o : Owner, p.labels = o.labels)
    (h : ∀ q ∈ entries, ∃ o, Owned o q.2 ∧ (Served o pods ∨ o = lost)) :
    ∃ fresh : List Pod, settleAll entries pods = pods ++ fresh ∧
      (∀ p ∈ fresh, p.labels = lost.labels) ∧
      ∀ q ∈ entries, ∃ o, Owned o q.2 ∧ Served o (pods ++ fresh) := by
  -- on the deployments: those in front of the lost one are served and make no pod
  induction entries with
  | nil =>
      exact ⟨[], (List.append_nil _).symm, fun _ hm => absurd hm List.not_mem_nil,
        fun _ hm => absurd hm List.not_mem_nil⟩
  | cons q entries ih =>
      obtain ⟨name, d⟩ := q
      have hrest : ∀ q ∈ entries, ∃ o, Owned o q.2 ∧ (Served o pods ∨ o = lost) :=
        fun q hq => h q (List.mem_cons_of_mem _ hq)
      obtain ⟨o, ho, hs⟩ := h _ List.mem_cons_self
      by_cases hserved : Served o pods
      · obtain ⟨fresh, hsettled, hfresh, hall⟩ := ih hrest
        refine ⟨fresh, (settleAll_served name ho hserved).trans hsettled, hfresh, ?_⟩
        exact List.forall_mem_cons.2 ⟨⟨o, ho, hserved.append fresh⟩, hall⟩
      · -- a pod is made here, and with it every deployment behind has one
        obtain rfl : o = lost := hs.resolve_left hserved
        obtain ⟨pod, hpod, hsettled⟩ := settleAll_lost name entries hp ho hserved
        have hall : ∀ q ∈ (name, d) :: entries, ∃ o, Owned o q.2 ∧ Served o (pods ++ [pod]) := by
          intro q hq
          obtain ⟨o', ho', hs'⟩ := h q hq
          refine ⟨o', ho', ?_⟩
          rcases hs' with hs' | rfl
          · exact hs'.append [pod]
          · exact ⟨pod, List.mem_append_right _ (List.mem_singleton_self _), hpod⟩
        refine ⟨[pod], ?_, ?_, hall⟩
        · rw [hsettled]
          exact settleAll_same fun q hq => hall q (List.mem_cons_of_mem _ hq)
        · intro p hm
          rw [List.mem_singleton.1 hm]
          exact hpod

end

end OsdMigration.MiniCluster
