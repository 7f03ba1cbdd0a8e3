import Mathlib.Control.Monad.Basic
import OsdMigration.Proofs.Completion.Removals
import OsdMigration.Proofs.MiniCluster.Newcomer
import OsdMigration.Proofs.SolePod

set_option autoImplicit false

/-! # Commands after the toolbox was started

The toolbox is started from a fixed template, and commands look for its pod by a selector of the
settings. Whether they find one is settled by the two and by what else is in the cluster
(`handed_over`). In a cluster at rest they find the pod that was made exactly if it is made at all,
no deployment sweeps it away, and the selector accepts the labels of the template (`Fits`).
-/

namespace OsdMigration

open Cluster
open Job (Brings)
open MiniCluster (AtRest desired freshPod ownSelector reconcile)

namespace Toolbox

/-! ## Starting the toolbox -/

/-- A cluster without a toolbox, and without pods that commands would take for one of it. Its
deployments come to their scales, and listings do not fail. -/
structure Vacant (s : Settings) (m : MiniCluster) : Prop where
  rollout : m.autoRollout = true
  listings : m.listingFaults = []
  absent : m.deployments.get? s.toolbox = none
  unmatched : ∀ p ∈ m.pods, p.selectedBy s.toolboxSelector = false

/-- The image that the operator of a cluster runs. -/
def imageOf (s : Settings) (m : MiniCluster) : Option String :=
  (m.deployments.get? s.operator).bind Deployment.firstImage?

/-- The cluster after a toolbox with an image was started. -/
def started (s : Settings) (m : MiniCluster) (image : String) : MiniCluster :=
  reconcile { m with
    deployments := m.deployments.insert s.toolbox (deployment s.space s.toolbox image) }

section

variable {s : Settings} {m : MiniCluster} {image : String}

theorem get?_started (h : m.autoRollout = true) :
    (started s m image).deployments.get? s.toolbox =
      some (MiniCluster.rolledOut (deployment s.space s.toolbox image)) := by
  simp only [started, reconcile, h, if_true, NameMap.get?_mapValues, NameMap.get?_insert_self,
    Option.map_some]

/-- A toolbox can be created under a name that is not taken. -/
theorem serve_createDeployment (absent : m.deployments.get? s.toolbox = none) :
    m.serve (.createDeployment s.space (deployment s.space s.toolbox image)) =
      (some (.ok ()), started s
        (m.noted (.createDeployment s.space (deployment s.space s.toolbox image))) image) := by
  have hcontains : m.deployments.contains s.toolbox = false := by
    rw [NameMap.contains, absent]
    rfl
  have hname : (deployment s.space s.toolbox image).metadata.name.getD "" = s.toolbox := rfl
  simp only [MiniCluster.serve, MiniCluster.noted, MiniCluster.create, hname, hcontains]
  rfl

theorem brings_createDeployment (absent : m.deployments.get? s.toolbox = none) (now : Nat) :
    Brings (Job.ask (.createDeployment s.space (deployment s.space s.toolbox image))) now m () now
      (started s m image) :=
  Brings.ask fun log => ⟨_, serve_createDeployment (m := { m with log }) absent⟩

end

end Toolbox

/-! ## Runs on a cluster that is left alone -/

/-- A run on a cluster that is left alone has come to an instant and to a state of the cluster. -/
structure Stands (now : Nat) (m : MiniCluster) (t : Timeline Rehearsal) : Prop where
  time : t.time = now
  server : ∃ log underWay, t.server = .calm m log underWay

section

variable {α : Type} {now later : Nat} {m m' : MiniCluster} {t u : Timeline Rehearsal}

/-- What a job brings about it brings about in every run that has come so far. -/
theorem Job.Brings.reaches {job : Job α} {a : α} (h : Brings job now m a later m')
    (ht : Stands now m t) : ∃ u, Stands later m' u ∧
      job.attempt.run Rehearsal.server none t = (.done (.ok a), u) := by
  obtain ⟨time, server, seen⟩ := t
  obtain ⟨rfl, log, underWay, rfl⟩ := ht
  obtain ⟨log', underWay', rs, hs⟩ := h log underWay
  obtain ⟨added, _, _, hrun⟩ := hs.run seen
  exact ⟨_, ⟨rfl, log', underWay', rfl⟩, hrun⟩

/-- A job that has brought about something else was not done. -/
theorem Job.Brings.eq_of_run {job : Job α} {a b : α} (h : Brings job now m a later m')
    (ht : Stands now m t) (hr : job.attempt.run Rehearsal.server none t = (.done (.ok b), u)) :
    b = a ∧ Stands later m' u := by
  obtain ⟨v, hv, hrun⟩ := h.reaches ht
  rw [hrun] at hr
  cases hr
  exact ⟨rfl, hv⟩

/-- A wait for a scale that ends well has time and polls, and the clock goes on for that time. -/
theorem room_of_awaitScale {c : Context} {name : String} {scale : Int} {timeout : Nat}
    (h : (awaitScale c name scale timeout).attempt.run Rehearsal.server none t =
      (.done (.ok ()), u)) :
    Clock.Reaches t.time (some timeout) ∧ 0 < timeout ∧ 1 ≤ c.polls := by
  obtain ⟨_, t₁, hreport, h⟩ := Job.run_bind_ok h
  obtain ⟨p, t₂, hstart, h⟩ := Job.run_bind_ok h
  obtain ⟨hclock, rfl, hnow⟩ := Job.run_start_ok hstart
  subst t₂
  have htime : t₁.time = t.time := by
    cases hreport
    rfl
  refine ⟨htime ▸ hclock, ?_⟩
  cases hpolls : c.polls with
  | zero =>
      rw [hpolls] at h
      cases h
  | succ n =>
      rw [hpolls, Pacer.wait] at h
      obtain ⟨_, _, hpoll, _⟩ := Job.run_bind_ok h
      obtain ⟨_, v, hanswer, _⟩ := Job.run_bind_ok hpoll
      have hbefore := (Job.run_guarded_ok hanswer).2 _ rfl
      have hle : t₁.time ≤ v.time :=
        (Procedure.le_time_run ..).trans_eq (congrArg (fun r => r.2.time) hanswer)
      exact ⟨Nat.pos_of_lt_add_right (Nat.lt_of_le_of_lt hle hbefore), Nat.le_add_left ..⟩

end

namespace Toolbox

variable {s : Settings} {polls now : Nat} {m : MiniCluster} {t u : Timeline Rehearsal}

theorem stands_of_operatorImage {image : String} (ht : Stands now m t)
    (h : (operatorImage s).attempt.run Rehearsal.server none t = (.done (.ok image), u)) :
    imageOf s m = some image ∧ Stands now m u := by
  obtain ⟨operator, t₁, hoperator, h⟩ := Job.run_bind_ok h
  obtain ⟨rfl, ht₁⟩ := (brings_getDeployment _ _).eq_of_run ht hoperator
  split at h
  · cases h
  · rename_i d hd
    split at h
    · rename_i image' himage
      cases h
      rw [imageOf, hd]
      exact ⟨himage, ht₁⟩
    · cases h

theorem stands_of_awaitUp {image : String} (hm : Vacant s m)
    (ht : Stands now (started s m image) t)
    (h : (awaitUp ⟨s, polls⟩).attempt.run Rehearsal.server none t = (.done (.ok ()), u)) :
    Stands now (started s m image) u := by
  have hwait := Job.run_during_ok.1 h
  obtain ⟨hclock, htime, hpolls⟩ := room_of_awaitScale hwait
  rw [ht.time] at hclock
  have hup : Brings (awaitScale ⟨s, polls⟩ s.toolbox 1 (Settings.seconds s.toolboxTimeout)) now
      (started s m image) () now (started s m image) :=
    brings_awaitScale (get?_started hm.rollout) rfl rfl htime hclock hpolls
  exact (hup.eq_of_run ht hwait).2

/-- Where the toolbox was started with success. -/
theorem stands_of_ready (hm : Vacant s m) (ht : Stands now m t)
    (ready : (ensureReady ⟨s, polls⟩).attempt.run Rehearsal.server none t = (.done (.ok ()), u)) :
    ∃ image ∈ imageOf s m, Stands now (started s m image) u := by
  obtain ⟨existing, t₁, hexisting, ready⟩ := Job.run_bind_ok ready
  obtain ⟨rfl, ht₁⟩ := (brings_getDeployment _ _).eq_of_run ht (Job.run_during_ok.1 hexisting)
  rw [show m.deployments.get? s.toolbox = none from hm.absent] at ready
  obtain ⟨_, t₂, hstart, ready⟩ := Job.run_bind_ok ready
  obtain ⟨-, ht₂⟩ := (Brings.report _).eq_of_run ht₁ hstart
  obtain ⟨image, t₃, himage, ready⟩ := Job.run_bind_ok ready
  obtain ⟨himage, ht₃⟩ := stands_of_operatorImage ht₂ (Job.run_during_ok.1 himage)
  obtain ⟨_, t₄, hcreate, ready⟩ := Job.run_bind_ok ready
  obtain ⟨-, ht₄⟩ := (brings_createDeployment hm.absent now).eq_of_run ht₃
    (Job.run_during_ok.1 hcreate)
  obtain ⟨_, t₅, hwait, ready⟩ := Job.run_bind_ok ready
  obtain ⟨-, ht₅⟩ := (Brings.report _).eq_of_run ht₄ hwait
  obtain ⟨_, t₆, hup, ready⟩ := Job.run_bind_ok ready
  exact ⟨image, himage, ((Brings.report _).eq_of_run (stands_of_awaitUp hm ht₅ hup) ready).2⟩

/-! ## Running a command -/

/-- The pods that commands take for those of the toolbox. -/
def found (s : Settings) (m : MiniCluster) : List Pod :=
  m.pods.filter fun p => p.selectedBy s.toolboxSelector

/-- A command, when a run has come so far. -/
def commandRun (s : Settings) (argv : List String) (t : Timeline Rehearsal) :
    Ending (Attempt CommandOutput) × Timeline Rehearsal :=
  (Toolbox.run s argv).attempt.run Rehearsal.server none { t with seen := [] }

/-- The command is sent to a pod. -/
def IsSent (s : Settings) (argv : List String) (t : Timeline Rehearsal) : Prop :=
  ∃ now pod container,
    .called now (.exec s.space pod container argv) ∈ (commandRun s argv t).2.seen

theorem mem_seen_bind {α β : Type} {job : Job α} {f : α → Job β} {e : Event}
    (h : e ∈ (job.attempt.run Rehearsal.server none t).2.seen) :
    e ∈ ((job >>= f).attempt.run Rehearsal.server none t).2.seen := by
  rcases Job.run_bind_cases Rehearsal.server none job f t with ⟨a, v, hj⟩ | ⟨hv, _⟩
  · obtain ⟨added, hs, _⟩ := Job.course_run Rehearsal.server none (f a) v
    rw [Job.run_bind_of_ok hj, hs]
    rw [hj] at h
    exact List.mem_append_right _ h
  · rwa [hv]

/-- A command has been seen once it was sent, whatever becomes of it. -/
theorem called_mem_cancellable (line : String) (r : Request) :
    .called t.time r ∈
      ((cancellable line (.call r .pure)).attempt.run Rehearsal.server none t).2.seen := by
  have hrun : ((cancellable line (.call r .pure)).attempt.run Rehearsal.server none t).2 =
      ((Procedure.call r .pure).runWithin Rehearsal.server none none 1 t).2 := by
    change ((Pacer.guarded ⟨0, none⟩ (abandoned line) (.call r .pure)).attempt.run _ _ _).2 = _
    rw [Job.run_guarded]
    exact Job.caught_timeline ..
  rw [hrun]
  simp only [Procedure.runWithin]
  split
  · exact List.mem_cons_self
  · split
    · exact List.mem_cons_of_mem _ List.mem_cons_self
    · exact List.mem_cons_self

/-- A command begins with a listing, of which nothing is seen but itself. -/
theorem commandRun_eq (hlistings : m.listingFaults = []) (ht : Stands now m t) (argv : List String) :
    ∃ v, Stands now m v ∧ commandRun s argv t =
        (runListed s argv (found s m)).attempt.run Rehearsal.server none v ∧
      ∀ u r, .called u r ∈ v.seen → r = .listPods s.space s.toolboxSelector := by
  have ht' : Stands now m { t with seen := [] } := ⟨ht.time, ht.server⟩
  obtain ⟨v, hv, hlist⟩ := (Brings.during "unable to find rook-ceph-tools pod"
    (brings_listPods hlistings s.space s.toolboxSelector)).reaches ht'
  refine ⟨v, hv, ?_, fun u r hmem => ?_⟩
  · rw [commandRun, run_eq]
    exact Job.run_bind_of_ok hlist
  · obtain ⟨added, hs, hc⟩ := Job.course_run_ok hlist
    obtain ⟨now', _, rfl⟩ := (Job.course_ask_ok ..).1 ((Job.course_during_ok ..).1 hc)
    rw [hs] at hmem
    have hlisted : u = now' ∧ r = .listPods s.space s.toolboxSelector := by simpa using hmem
    exact hlisted.2

theorem isSent_iff (hlistings : m.listingFaults = []) (ht : Stands now m t) (argv : List String) :
    IsSent s argv t ↔ ∃ pod container, solePod (found s m) = .ok (pod, container) := by
  obtain ⟨v, hv, hrun, hcalled⟩ := commandRun_eq hlistings ht argv
  unfold IsSent
  rw [hrun]
  constructor
  · rintro ⟨u, pod, container, hmem⟩
    obtain ⟨added, hs, hc⟩ := Job.course_run Rehearsal.server none (runListed s argv (found s m)) v
    rw [hs] at hmem
    rcases course_runListed hc with rfl | ⟨pod, container, _, _, hsole, _, _⟩
    · cases hcalled _ _ hmem
    · exact ⟨pod, container, hsole⟩
  · rintro ⟨pod, container, hsole⟩
    refine ⟨v.time, pod, container, ?_⟩
    have hfirst : (Job.ofAttempt (solePod (found s m))).attempt.run Rehearsal.server none v =
        (.done (.ok (pod, container)), v) := by
      rw [hsole]
      rfl
    rw [runListed, Job.run_bind_of_ok hfirst]
    exact mem_seen_bind (called_mem_cancellable _ _)

theorem commandRun_of_error (hlistings : m.listingFaults = []) (ht : Stands now m t)
    (argv : List String) {f : Failure} (h : solePod (found s m) = .error f) :
    (commandRun s argv t).1 = .done (.error f) := by
  obtain ⟨v, hv, hrun, _⟩ := commandRun_eq hlistings ht argv
  have hfirst : (Job.ofAttempt (solePod (found s m))).attempt.run Rehearsal.server none v =
      (.done (.error f), v) := by
    rw [h]
    rfl
  rw [hrun, runListed, Job.run_bind_of_error hfirst]

/-! ## What commands find -/

/-- Some pod is taken by the deployment of a toolbox for its own. -/
def Claimed (m : MiniCluster) : Prop :=
  ∃ p ∈ m.pods, p.selectedBy (Selector.encode labels) = true

/-- A deployment behind that of the toolbox asks for no pods and takes a pod with the labels of a
toolbox for its own. -/
def Swept (s : Settings) (m : MiniCluster) : Prop :=
  ∃ q ∈ m.deployments.pairs, s.toolbox < q.1 ∧ ∃ spec ∈ q.2.spec, desired spec = 0 ∧
    (Selector.ofText (ownSelector spec)).accepts labels = true

/-- The pod that is made when the toolbox is started can be used: it is made, it stays, and
commands look for a pod with its labels. -/
structure Fits (s : Settings) (m : MiniCluster) : Prop where
  unclaimed : ¬ Claimed m
  unswept : ¬ Swept s m
  selected : (Selector.ofText s.toolboxSelector).accepts labels = true

/-- What the deployment of the toolbox asks for. -/
def spec (s : Settings) (image : String) : DeploymentSpec :=
  (deployment s.space s.toolbox image).spec.getD {}

/-- The pod that is made when the toolbox is started. -/
def newPod (s : Settings) (image : String) : Pod := freshPod s.toolbox (spec s image)

section

variable {image : String}

theorem newPod_selectedBy (selector : String) :
    (newPod s image).selectedBy selector = (Selector.ofText selector).accepts labels := rfl

/-- The pods once the deployment of the toolbox was added to a cluster at rest: its turn comes
behind the deployments before it, which have what they ask for. -/
theorem pods_started (image : String) (hm : Vacant s m) (hrest : m.AtRest) :
    ∃ after, (∀ q, q ∈ after ↔ q ∈ m.deployments.pairs ∧ s.toolbox < q.1) ∧
      (started s m image).pods = MiniCluster.settleAll after
        (MiniCluster.settlePods s.toolbox (spec s image) m.pods) := by
  obtain ⟨before, after, hpairs, hinsert, hbefore, hafter⟩ :=
    NameMap.exists_insert_split (deployment s.space s.toolbox image) hm.absent
  refine ⟨after, fun q => ?_, ?_⟩
  · rw [hpairs, List.mem_append]
    constructor
    · intro hq
      exact ⟨.inr hq, hafter q hq⟩
    · rintro ⟨hq | hq, hlt⟩
      · exact absurd hlt (String.not_lt.2 (Std.le_of_lt (hbefore q hq)))
      · exact hq
  · have hfront : ∀ q ∈ before, MiniCluster.Content m.pods q.2 := fun q hq =>
      hrest q (hpairs ▸ List.mem_append_left _ hq)
    change MiniCluster.settleAll (m.deployments.insert _ _).pairs m.pods = _
    rw [hinsert, MiniCluster.settleAll_append, MiniCluster.settleAll_content hfront,
      MiniCluster.settleAll_cons]
    rfl

theorem desired_spec : desired (spec s image) ≠ 0 := by
  change (1 : Int) ≠ 0
  decide

theorem settlePods_claimed (h : Claimed m) :
    MiniCluster.settlePods s.toolbox (spec s image) m.pods = m.pods := by
  rw [MiniCluster.settlePods, if_neg desired_spec]
  exact if_pos (List.any_eq_true.2 h)

theorem settlePods_unclaimed (h : ¬ Claimed m) :
    MiniCluster.settlePods s.toolbox (spec s image) m.pods = m.pods ++ [newPod s image] := by
  rw [MiniCluster.settlePods, if_neg desired_spec]
  exact if_neg fun hany => h (List.any_eq_true.1 hany)

/-- Commands find the pod that was made, or nothing. -/
theorem found_started (image : String) (hm : Vacant s m) (hrest : m.AtRest) :
    (Fits s m ∧ found s (started s m image) = [newPod s image]) ∨
      (¬ Fits s m ∧ found s (started s m image) = []) := by
  obtain ⟨after, hafter, hpods⟩ := pods_started image hm hrest
  have hcontent : ∀ q ∈ after, MiniCluster.Content m.pods q.2 := fun q hq =>
    hrest q ((hafter q).1 hq).1
  have hsweeps : (∃ q ∈ after, MiniCluster.Sweeps (newPod s image) q.2) ↔ Swept s m := by
    simp only [hafter, MiniCluster.Sweeps, newPod_selectedBy, Swept, and_assoc]
  have hnone : m.pods.filter (fun p => p.selectedBy s.toolboxSelector) = [] :=
    List.filter_eq_nil_iff.2 fun p hp => by simp [hm.unmatched p hp]
  rw [found, hpods]
  by_cases hclaimed : Claimed m
  · rw [settlePods_claimed hclaimed, MiniCluster.settleAll_content hcontent]
    exact .inr ⟨fun h => h.unclaimed hclaimed, hnone⟩
  · rw [settlePods_unclaimed hclaimed]
    by_cases hswept : Swept s m
    · rw [MiniCluster.settleAll_sweeps hcontent (hsweeps.2 hswept)]
      exact .inr ⟨fun h => h.unswept hswept, hnone⟩
    · have hstays : ∀ q ∈ after, ¬ MiniCluster.Sweeps (newPod s image) q.2 := fun q hq hs =>
        hswept (hsweeps.1 ⟨q, hq, hs⟩)
      rw [MiniCluster.settleAll_spares hcontent hstays, List.filter_append, hnone]
      cases hselected : (Selector.ofText s.toolboxSelector).accepts labels with
      | true =>
          refine .inl ⟨⟨hclaimed, hswept, hselected⟩, ?_⟩
          simp [newPod_selectedBy, hselected]
      | false =>
          refine .inr ⟨fun h => ?_, ?_⟩
          · rw [h.selected] at hselected
            cases hselected
          · simp [newPod_selectedBy, hselected]

/-- What is found was made when the toolbox was started: for it, or for another deployment that had
no pods. -/
theorem made_of_mem_found (hm : Vacant s m) {p : Pod} (hp : p ∈ found s (started s m image)) :
    p = newPod s image ∨
      ∃ q ∈ m.deployments.pairs, ∃ spec ∈ q.2.spec, p = freshPod q.1 spec := by
  obtain ⟨hmem, hselected⟩ := List.mem_filter.1 hp
  rcases MiniCluster.mem_settleAll hmem with hold | ⟨q, hq, spec, hspec, hfresh⟩
  · rw [hm.unmatched p hold] at hselected
    cases hselected
  · rcases NameMap.fst_mem_of_mem_put hq with rfl | hq
    · obtain rfl := Option.some.inj hspec
      exact .inl hfresh
    · exact .inr ⟨q, hq, spec, hspec, hfresh⟩

end

/-- What a command meets once the toolbox was started. -/
structure Handover (s : Settings) (m : MiniCluster) (image : String) (argv : List String)
    (u : Timeline Rehearsal) : Prop where
  /-- The operator's image was taken, and the pods are those of the cluster with the toolbox. -/
  image_mem : image ∈ imageOf s m
  pods_eq : u.server.cluster.pods = (started s m image).pods
  /-- No pod is found that was there before. -/
  made : ∀ p ∈ found s u.server.cluster, p = newPod s image ∨
    ∃ q ∈ m.deployments.pairs, ∃ spec ∈ q.2.spec, p = freshPod q.1 spec
  /-- The command is sent exactly if one pod is found, and it has a container. -/
  sent_iff : IsSent s argv u ↔
    ∃ pod container, solePod (found s u.server.cluster) = .ok (pod, container)
  /-- Otherwise the listing is the reason that it fails. -/
  refused : ∀ f, solePod (found s u.server.cluster) = .error f →
    (commandRun s argv u).1 = .done (.error f)
  /-- In a cluster that was at rest it is sent exactly if the new pod can be used. -/
  sent_iff_fits : m.AtRest → (IsSent s argv u ↔ Fits s m)
  /-- Otherwise no pod is found. -/
  not_found : m.AtRest → ¬ Fits s m → (commandRun s argv u).1 = .done (.error (.toolboxPods 0 []))

theorem isSent_of_fits {image : String} (hm : Vacant s m) (hrest : m.AtRest)
    (hu : Stands now (started s m image) u) (argv : List String) :
    (IsSent s argv u ↔ Fits s m) ∧
      (¬ Fits s m → (commandRun s argv u).1 = .done (.error (.toolboxPods 0 []))) := by
  have hlistings : (started s m image).listingFaults = [] := hm.listings
  rw [isSent_iff hlistings hu]
  rcases found_started image hm hrest with ⟨hfits, hfound⟩ | ⟨hfits, hfound⟩
  · refine ⟨iff_of_true ⟨s.toolbox ++ "-0", "rook-ceph-tools", ?_⟩ hfits, absurd hfits⟩
    rw [hfound]
    rfl
  · refine ⟨iff_of_false ?_ hfits, fun _ => commandRun_of_error hlistings hu argv ?_⟩
    · rintro ⟨pod, container, hsole⟩
      rw [hfound] at hsole
      cases hsole
    · rw [hfound]
      rfl

/-- Whether a command reaches a toolbox that was started is a matter of the settings and of the
cluster in which it was started. -/
theorem handed_over (hm : Vacant s m) (ht : Stands now m t) (argv : List String)
    (ready : (ensureReady ⟨s, polls⟩).attempt.run Rehearsal.server none t = (.done (.ok ()), u)) :
    ∃ image, Handover s m image argv u := by
  obtain ⟨image, himage, hu⟩ := stands_of_ready hm ht ready
  have hlistings : (started s m image).listingFaults = [] := hm.listings
  obtain ⟨log, underWay, hserver⟩ := hu.server
  have hfound : found s u.server.cluster = found s (started s m image) := by
    rw [hserver]
    rfl
  exact ⟨image, {
    image_mem := himage
    pods_eq := by rw [hserver]; rfl
    made := fun p hp => made_of_mem_found hm (hfound ▸ hp)
    sent_iff := by rw [hfound]; exact isSent_iff hlistings hu argv
    refused := fun f hf => commandRun_of_error hlistings hu argv (hfound ▸ hf)
    sent_iff_fits := fun hrest => (isSent_of_fits hm hrest hu argv).1
    not_found := fun hrest => (isSent_of_fits hm hrest hu argv).2 }⟩

/-! ## A cluster with nothing but its operator -/

/-- A cluster in which only the operator runs. -/
def operated : MiniCluster := MiniCluster.bare.withOperator "rook/ceph:v1.0.4"

theorem atRest_operated : operated.AtRest := by
  intro q hq spec hspec
  obtain rfl := List.mem_singleton.1 hq
  obtain rfl := Option.some.inj hspec
  refine iff_of_true (by decide) ⟨_, List.mem_singleton_self _, by decide +kernel⟩

/-- The run before it. -/
def beginning : Timeline Rehearsal := ⟨0, .calm operated [] none, []⟩

theorem stands_beginning : Stands 0 operated beginning := ⟨rfl, [], none, rfl⟩

/-- With stock settings a command can be sent once the toolbox was started. -/
theorem stock_handed_over : ∃ u,
    (ensureReady ⟨Settings.standard, 3⟩).attempt.run Rehearsal.server none beginning =
      (.done (.ok ()), u) ∧ IsSent Settings.standard ["ceph", "status"] u := by
  let run := (ensureReady ⟨Settings.standard, 3⟩).attempt.run Rehearsal.server none beginning
  have hresult : run.1.result? = some (.ok ()) := by decide +kernel
  have ready : run = (.done (.ok ()), run.2) := Prod.ext (eq_done_of_result hresult) rfl
  have hm : Vacant Settings.standard operated := ⟨rfl, rfl, rfl, by decide +kernel⟩
  have hfits : Fits Settings.standard operated := by
    have hother : ∀ p ∈ operated.pods, p.selectedBy (Selector.encode labels) = false := by
      decide +kernel
    refine ⟨?_, ?_, by decide +kernel⟩
    · rintro ⟨p, hp, hs⟩
      rw [hother p hp] at hs
      cases hs
    · rintro ⟨q, hq, _, spec, hspec, hd, _⟩
      obtain rfl := List.mem_singleton.1 hq
      obtain rfl := Option.some.inj hspec
      cases hd
  obtain ⟨image, h⟩ := handed_over hm stands_beginning ["ceph", "status"] ready
  exact ⟨run.2, ready, (h.sent_iff_fits atRest_operated).2 hfits⟩

/-- Settings of an installation in which the pods of the toolbox have another label. -/
def relabelled : Settings := { Settings.standard with toolboxSelector := "app=ceph-tools" }

/-- The settings are accepted and the toolbox is started with success, and no command can be
sent. -/
theorem started_in_vain : relabelled.check = .ok () ∧ Vacant relabelled operated ∧ ∃ u,
    (ensureReady ⟨relabelled, 3⟩).attempt.run Rehearsal.server none beginning =
      (.done (.ok ()), u) ∧
    ¬ IsSent relabelled ["ceph", "status"] u ∧
    (commandRun relabelled ["ceph", "status"] u).1 = .done (.error (.toolboxPods 0 [])) := by
  let run := (ensureReady ⟨relabelled, 3⟩).attempt.run Rehearsal.server none beginning
  have hresult : run.1.result? = some (.ok ()) := by decide +kernel
  have ready : run = (.done (.ok ()), run.2) := Prod.ext (eq_done_of_result hresult) rfl
  have hm : Vacant relabelled operated := ⟨rfl, rfl, rfl, by decide +kernel⟩
  have hmisfit : ¬ Fits relabelled operated := fun h => by
    have hselected : (Selector.ofText relabelled.toolboxSelector).accepts labels = false := by
      decide +kernel
    rw [h.selected] at hselected
    cases hselected
  obtain ⟨image, _, hu⟩ := stands_of_ready hm stands_beginning ready
  obtain ⟨hsent, hrefused⟩ := isSent_of_fits hm atRest_operated hu ["ceph", "status"]
  exact ⟨rfl, hm, run.2, ready, fun h => hmisfit (hsent.1 h), hrefused hmisfit⟩

end Toolbox

end OsdMigration
