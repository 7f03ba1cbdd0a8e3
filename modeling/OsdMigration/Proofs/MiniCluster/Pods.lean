import OsdMigration.MiniCluster.Reconcile
import OsdMigration.Proofs.Cluster.Scaling
import OsdMigration.Proofs.Cluster.Selector
import OsdMigration.Proofs.Numeral

set_option autoImplicit false

/-! # The pods of one OSD

What reconciling does to the pods of one OSD: its own deployment takes them away or leaves them, and
no other deployment touches them or makes more of them. A pod is one of an OSD if the number in its
label is that of the OSD (`mine`), which is how the pods are listed.
-/

namespace OsdMigration.MiniCluster

open Cluster

/-- The labels of the pods of an OSD. -/
def osdLabels (osd : UInt32) : Labels :=
  .ofList [("app", "rook-ceph-osd"), ("ceph-osd-id", toString osd)]

/-- Whether labels carry the number of an OSD. -/
def Numbered (osd : UInt32) (labels : Labels) : Prop :=
  Text.uint32? ((labels.get? "ceph-osd-id").getD "") = some osd

instance (osd : UInt32) (labels : Labels) : Decidable (Numbered osd labels) :=
  inferInstanceAs (Decidable (_ = _))

/-- The pods of an OSD. -/
def mine (osd : UInt32) (pods : List Pod) : List Pod := pods.filter fun p => Numbered osd p.labels

theorem mem_mine {osd : UInt32} {pods : List Pod} {p : Pod} :
    p ∈ mine osd pods ↔ p ∈ pods ∧ Numbered osd p.labels := by
  simp [mine]

/-! ## Labels -/

theorem get?_osdLabels_app (osd : UInt32) : (osdLabels osd).get? "app" = some "rook-ceph-osd" := by
  rw [osdLabels, NameMap.get?_ofList]
  rfl

theorem get?_osdLabels_number (osd : UInt32) :
    (osdLabels osd).get? "ceph-osd-id" = some (toString osd) := by
  rw [osdLabels, NameMap.get?_ofList]
  rfl

theorem numbered_osdLabels {osd other : UInt32} : Numbered osd (osdLabels other) ↔ other = osd := by
  rw [Numbered, get?_osdLabels_number, Option.getD_some, Text.uint32?_toString, Option.some.injEq]

theorem osdLabels_pairs (osd : UInt32) :
    (osdLabels osd).pairs = [("app", "rook-ceph-osd"), ("ceph-osd-id", toString osd)] := by
  have hlt : ¬ ("ceph-osd-id" < "app") := by decide
  simp [osdLabels, NameMap.ofList, NameMap.insert, NameMap.put, NameMap.empty, hlt]

theorem comma_not_mem_toString (osd : UInt32) : ',' ∉ (toString osd).toList := by
  intro hm
  have h : (toString osd).toList = Nat.toDigits 10 osd.toNat := Nat.toList_repr
  rw [h] at hm
  exact absurd (Nat.isDigit_of_mem_toDigits (by omega) (by omega) hm) (by decide)

/-- The labels of an OSD can stand in a selector. -/
theorem plain_osdLabels (osd : UInt32) :
    ∀ q ∈ (osdLabels osd).pairs, PlainName q.1 ∧ ',' ∉ q.2.toList := by
  intro q hq
  rw [osdLabels_pairs] at hq
  rcases List.mem_cons.1 hq with rfl | hq
  · have happ : PlainName "app" ∧ ',' ∉ "rook-ceph-osd".toList := by decide +kernel
    exact happ
  · rw [List.mem_singleton.1 hq]
    have hid : PlainName "ceph-osd-id" := by decide +kernel
    exact ⟨hid, comma_not_mem_toString osd⟩

/-- The selector of one OSD's labels selects the labels of that OSD only. -/
theorem selectedBy_osdLabels {osd other : UInt32} {p : Pod} (h : p.labels = osdLabels osd) :
    p.selectedBy (Selector.encode (osdLabels other)) = decide (osd = other) := by
  rw [Pod.selectedBy_encode (plain_osdLabels other), h, osdLabels_pairs]
  simp only [List.all_cons, List.all_nil, get?_osdLabels_app, get?_osdLabels_number,
    beq_self_eq_true, Bool.true_and, Bool.and_true]
  by_cases he : osd = other
  · simp [he]
  · have hne : toString osd ≠ toString other := fun hs => he (toString_injective hs)
    simp [he, hne]

/-- A selector that asks for one application. -/
theorem selectedBy_app {osd : UInt32} {p : Pod} {selector app : String}
    (h : p.labels = osdLabels osd) (hs : Selector.ofText selector = [.equals "app" app]) :
    p.selectedBy selector = decide ("rook-ceph-osd" = app) := by
  rw [Pod.selectedBy, hs, h]
  simp only [Selector.accepts, List.all_cons, List.all_nil, Selector.Term.accepts,
    get?_osdLabels_app, Bool.and_true]
  rfl

/-! ## Deployments -/

/-- A deployment that neither selects nor makes pods of an OSD. -/
structure Foreign (osd : UInt32) (spec : DeploymentSpec) : Prop where
  spares : ∀ p : Pod, p.labels = osdLabels osd → p.selectedBy (ownSelector spec) = false
  makes : ¬ Numbered osd (spec.template.labels.getD .empty)

theorem Foreign.rescaled {osd : UInt32} {n : Int} {spec spec' : DeploymentSpec}
    (h : Foreign osd spec) (hr : spec.Rescaled n spec') : Foreign osd spec' where
  spares := by
    have hs : ownSelector spec' = ownSelector spec := by rw [ownSelector, hr.owned, ownSelector]
    rw [hs]
    exact h.spares
  makes := by
    rw [hr.template]
    exact h.makes

/-- A deployment of some application other than an OSD. -/
theorem foreign_app {osd : UInt32} {spec : DeploymentSpec} {app : String}
    (ho : spec.owned.labels = some (.ofList [("app", app)]))
    (ht : spec.template.labels = some (.ofList [("app", app)])) (hne : "rook-ceph-osd" ≠ app)
    (hcomma : ',' ∉ app.toList) : Foreign osd spec where
  spares := by
    intro p hp
    have hpairs : (NameMap.ofList [("app", app)]).pairs = [("app", app)] := rfl
    have hname : PlainName "app" := by decide +kernel
    rw [ownSelector, ho, Option.getD_some, Pod.selectedBy_encode, hp, hpairs]
    · simp [get?_osdLabels_app, hne]
    · intro q hq
      rw [hpairs] at hq
      rw [List.mem_singleton.1 hq]
      exact ⟨hname, hcomma⟩
  makes := by
    have hnone : (NameMap.ofList [("app", app)]).get? "ceph-osd-id" = none := rfl
    have hread : Text.uint32? "" = none := by decide +kernel
    rw [ht, Option.getD_some, Numbered, hnone, Option.getD_none, hread]
    nofun

/-- A deployment of another OSD. -/
theorem foreign_osd {osd other : UInt32} {spec : DeploymentSpec}
    (ho : spec.owned.labels = some (osdLabels other))
    (ht : spec.template.labels = some (osdLabels other)) (hne : other ≠ osd) :
    Foreign osd spec where
  spares := by
    intro p hp
    rw [ownSelector, ho, Option.getD_some, selectedBy_osdLabels hp, decide_eq_false (Ne.symm hne)]
  makes := by
    rw [ht, Option.getD_some, numbered_osdLabels]
    exact hne

/-- What is asked of the deployment of an OSD, with a number of pods. -/
structure Own (osd : UInt32) (scale : Int) (spec : DeploymentSpec) : Prop where
  replicas : spec.replicas = some scale
  owned : spec.owned.labels = some (osdLabels osd)

theorem Own.selects {osd : UInt32} {scale : Int} {spec : DeploymentSpec} (h : Own osd scale spec)
    {p : Pod} (hp : p.labels = osdLabels osd) : p.selectedBy (ownSelector spec) = true := by
  rw [ownSelector, h.owned, Option.getD_some, selectedBy_osdLabels hp, decide_eq_true rfl]

/-! ## Settling one deployment -/

section

variable {osd : UInt32} {spec : DeploymentSpec} {pods : List Pod}

theorem mine_filter {keep : Pod → Bool} (h : ∀ p ∈ mine osd pods, keep p = true) :
    mine osd (pods.filter keep) = mine osd pods := by
  unfold mine
  rw [List.filter_filter]
  refine List.filter_congr fun p hp => ?_
  by_cases hn : Numbered osd p.labels
  · simp [hn, h p (mem_mine.2 ⟨hp, hn⟩)]
  · simp [hn]

theorem mine_append_of_not {p : Pod} (h : ¬ Numbered osd p.labels) :
    mine osd (pods ++ [p]) = mine osd pods := by
  simp [mine, h]

theorem mine_settlePods_foreign (name : String) (h : Foreign osd spec)
    (hp : ∀ p ∈ mine osd pods, p.labels = osdLabels osd) :
    mine osd (settlePods name spec pods) = mine osd pods := by
  simp only [settlePods]
  split
  · refine mine_filter fun p hm => ?_
    rw [h.spares p (hp p hm)]
    rfl
  · split
    · rfl
    · exact mine_append_of_not h.makes

theorem mine_settlePods_zero (name : String) (h : Own osd 0 spec)
    (hp : ∀ p ∈ mine osd pods, p.labels = osdLabels osd) :
    mine osd (settlePods name spec pods) = [] := by
  have hd : desired spec = 0 := by rw [desired, h.replicas, Option.getD_some]
  rw [settlePods, if_pos hd]
  refine List.eq_nil_iff_forall_not_mem.2 fun p hm => ?_
  obtain ⟨hm, hn⟩ := mem_mine.1 hm
  obtain ⟨hm, hs⟩ := List.mem_filter.1 hm
  rw [h.selects (hp p (mem_mine.2 ⟨hm, hn⟩))] at hs
  cases hs

theorem settlePods_one (name : String) (h : Own osd 1 spec)
    (hp : ∀ p ∈ mine osd pods, p.labels = osdLabels osd) (hne : mine osd pods ≠ []) :
    settlePods name spec pods = pods := by
  have hd : desired spec ≠ 0 := by
    rw [desired, h.replicas, Option.getD_some]
    decide
  obtain ⟨p, hm⟩ := List.exists_mem_of_ne_nil _ hne
  have hany : pods.any (fun p => p.selectedBy (ownSelector spec)) = true :=
    List.any_eq_true.2 ⟨p, (mem_mine.1 hm).1, h.selects (hp p hm)⟩
  rw [settlePods, if_neg hd, if_pos hany]

end

/-! ## Settling all deployments -/

/-- An entry that fits with the deployment of an OSD at a scale: it is that deployment, or it has
nothing to do with the OSD. -/
structure Fits (osd : UInt32) (scale : Int) (entry : String × Deployment) : Prop where
  own : entry.1 = osdDeployment osd → ∃ spec, entry.2.spec = some spec ∧ Own osd scale spec
  foreign : entry.1 ≠ osdDeployment osd → ∀ spec, entry.2.spec = some spec → Foreign osd spec

section

variable {osd : UInt32} {entries : List (String × Deployment)}

/-- While its deployment asks for a pod, the pods of an OSD stay. -/
theorem mine_settleAll_one (h : ∀ q ∈ entries, Fits osd 1 q) {pods : List Pod}
    (hp : ∀ p ∈ mine osd pods, p.labels = osdLabels osd) (hne : mine osd pods ≠ []) :
    mine osd (settleAll entries pods) = mine osd pods := by
  induction entries generalizing pods with
  | nil => rfl
  | cons q entries ih =>
      obtain ⟨name, d⟩ := q
      have hq := h _ List.mem_cons_self
      have hrest : ∀ q ∈ entries, Fits osd 1 q := fun q hq => h q (List.mem_cons_of_mem _ hq)
      rw [settleAll]
      by_cases hn : name = osdDeployment osd
      · obtain ⟨spec, hd, ho⟩ : ∃ spec, d.spec = some spec ∧ Own osd 1 spec := hq.own hn
        simp only [hd, settlePods_one name ho hp hne]
        exact ih hrest hp hne
      · cases hd : d.spec with
        | none => exact ih hrest hp hne
        | some spec =>
            have hs := mine_settlePods_foreign name (hq.foreign hn spec hd) hp
            rw [ih hrest (by rwa [hs]) (by rwa [hs]), hs]

/-- Once its deployment asks for no pods, those of an OSD go, if they had not gone before. -/
theorem mine_settleAll_zero (h : ∀ q ∈ entries, Fits osd 0 q) {pods : List Pod}
    (hp : ∀ p ∈ mine osd pods, p.labels = osdLabels osd)
    (hgone : mine osd pods = [] ∨ ∃ d, (osdDeployment osd, d) ∈ entries) :
    mine osd (settleAll entries pods) = [] := by
  -- on the deployments: once its own has swept the pods, the others bring none back
  induction entries generalizing pods with
  | nil =>
      rcases hgone with hgone | ⟨_, hm⟩
      · exact hgone
      · cases hm
  | cons q entries ih =>
      obtain ⟨name, d⟩ := q
      have hq := h _ List.mem_cons_self
      have hrest : ∀ q ∈ entries, Fits osd 0 q := fun q hq => h q (List.mem_cons_of_mem _ hq)
      rw [settleAll]
      by_cases hn : name = osdDeployment osd
      · obtain ⟨spec, hd, ho⟩ : ∃ spec, d.spec = some spec ∧ Own osd 0 spec := hq.own hn
        have hs := mine_settlePods_zero name ho hp
        simp only [hd]
        refine ih hrest ?_ (.inl hs)
        rw [hs]
        exact fun p hm => absurd hm List.not_mem_nil
      · -- another deployment, so its own comes later
        have hgone : mine osd pods = [] ∨ ∃ d, (osdDeployment osd, d) ∈ entries := by
          refine hgone.imp_right ?_
          rintro ⟨d', hm⟩
          rcases List.mem_cons.1 hm with he | hm
          · exact absurd (congrArg Prod.fst he).symm hn
          · exact ⟨d', hm⟩
        cases hd : d.spec with
        | none => exact ih hrest hp hgone
        | some spec =>
            have hs := mine_settlePods_foreign name (hq.foreign hn spec hd) hp
            exact ih hrest (by rwa [hs]) (by rwa [hs])

end

end OsdMigration.MiniCluster
