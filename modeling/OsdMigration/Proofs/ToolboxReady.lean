import OsdMigration.Proofs.MiniCluster.Alone
import OsdMigration.Proofs.Requests
import OsdMigration.Proofs.ToolboxStart
import OsdMigration.Proofs.Wait

set_option autoImplicit false

/-! # Making sure of the toolbox twice

On a cluster that is left alone, making sure of the toolbox sends what the cluster needs and nothing
else (`Needs`): nothing if a pod of it is ready, a scale if none is, a deployment with the image of
the operator if there is none. It ends well only if a pod is ready then, and so a second call has
nothing left to do, although it looks at other counts than those the first one waited for
(`ready_twice`).
-/

namespace OsdMigration

open Cluster

/-! ## Runs so far -/

/-- A run on a cluster that is left alone has come to a state of it, and has sent this to change
something. -/
structure ComeTo (m : MiniCluster) (sent : List Request) (t : Timeline Rehearsal) : Prop where
  server : t.server.LeftAlone m
  sent : mutations t.seen = sent

section

variable {m m' : MiniCluster} {sent : List Request} {t : Timeline Rehearsal}

theorem ComeTo.cluster (h : ComeTo m sent t) : t.server.cluster = m := by
  obtain ⟨underWay, hserver⟩ := h.server
  rw [hserver]

/-- Looking changes nothing. -/
theorem ComeTo.look (h : ComeTo m sent t) (cancelAt : Option Nat) {r : Request}
    {a : Attempt r.Reply} (hlooks : r.looks = true) (hserve : m.serve r = (some a, m)) :
    ∃ u, ComeTo m sent u ∧ (Job.ask r).attempt.run Rehearsal.server cancelAt t = (.done a, u) := by
  obtain ⟨server, ha, hrun⟩ := Job.run_ask cancelAt h.server hserve
  refine ⟨_, ⟨ha, ?_⟩, hrun⟩
  simp [mutations_exchange, hlooks, h.sent]

/-- Any other request counts. -/
theorem ComeTo.mutate (h : ComeTo m sent t) (cancelAt : Option Nat) {r : Request}
    {a : Attempt r.Reply} (hlooks : r.looks = false) (hserve : m.serve r = (some a, m')) :
    ∃ u, ComeTo m' (r :: sent) u ∧
      (Job.ask r).attempt.run Rehearsal.server cancelAt t = (.done a, u) := by
  obtain ⟨server, ha, hrun⟩ := Job.run_ask cancelAt h.server hserve
  refine ⟨_, ⟨ha, ?_⟩, hrun⟩
  simp [mutations_exchange, hlooks, h.sent]

theorem ComeTo.report (h : ComeTo m sent t) (cancelAt : Option Nat) (text : String) :
    ∃ u, ComeTo m sent u ∧
      (Job.report text).attempt.run Rehearsal.server cancelAt t = (.done (.ok ()), u) :=
  ⟨{ t with seen := .told t.time (.line text) :: t.seen }, ⟨h.server, h.sent⟩,
    Job.run_report text t⟩

end

namespace Toolbox

variable {s : Settings} {m m' : MiniCluster} {sent : List Request} {t : Timeline Rehearsal}
  (c : Context) (cancelAt : Option Nat)

/-! ## What the cluster needs -/

/-- Some pod of the toolbox is ready. -/
def ReadyIn (s : Settings) (m : MiniCluster) : Prop :=
  ∃ d, m.deployments.get? s.toolbox = some d ∧ isReady d = true

/-- What it takes to bring the toolbox up. -/
inductive Needs (s : Settings) (m : MiniCluster) : List Request → Prop
  /-- Nothing, if some pod of it is ready, -/
  | nothing (ready : ReadyIn s m) : Needs s m []
  /-- a scale of one, if none is, -/
  | scale {d : Deployment} (present : m.deployments.get? s.toolbox = some d)
      (dormant : isReady d = false) :
      Needs s m [.patchDeployment s.space s.toolbox (scalePatch 1)]
  /-- a deployment, if there is none; its image is that of the operator, -/
  | creation {image : String} (absent : m.deployments.get? s.toolbox = none)
      (known : imageOf s m = some image) :
      Needs s m [.createDeployment s.space (deployment s.space s.toolbox image)]
  /-- and without an image nothing can be done. -/
  | impossible (absent : m.deployments.get? s.toolbox = none) (unknown : imageOf s m = none) :
      Needs s m []

theorem isReady_of_atScale {d : Deployment} (h : d.atScale 1 = true) : isReady d = true := by
  unfold Deployment.atScale at h
  split at h
  · cases h
  · rename_i status hstatus
    simp only [Bool.and_eq_true, beq_iff_eq] at h
    simp [isReady, hstatus, h.1.2]

/-- What a run has come to, and that some pod is ready if it ended well. -/
structure EndsAt (s : Settings) (m : MiniCluster) (sent : List Request)
    (run : Ending (Attempt Unit) × Timeline Rehearsal) : Prop where
  comeTo : ComeTo m sent run.2
  ready : run.1 = .done (.ok ()) → ReadyIn s m

/-! ## Looking and waiting -/

theorem serve_getDeployment (m : MiniCluster) (space name : String) :
    m.serve (.getDeployment space name) = (some (.ok (m.deployments.get? name)), m) := rfl

/-- The wait only looks at the deployment. -/
theorem sends_awaitUp :
    Job.Sends (· = .getDeployment c.settings.space c.settings.toolbox) (awaitUp c) := by
  have hwait : Job.Sends (· = .getDeployment c.settings.space c.settings.toolbox)
      (awaitScale c c.settings.toolbox 1 (Settings.seconds c.settings.toolboxTimeout)) :=
    sends_awaitScale _ _ _ _ rfl
  exact Cumulative.during _ hwait

/-- The wait changes nothing, and if it ends well, some pod is ready. -/
theorem endsAt_awaitUp (h : ComeTo m sent t) :
    EndsAt c.settings m sent ((awaitUp c).attempt.run Rehearsal.server cancelAt t) := by
  obtain ⟨seen, m', hseen, hcourse, hleads, hserver⟩ := leads_run cancelAt (awaitUp c) h.server
  let question : Request := .getDeployment c.settings.space c.settings.toolbox
  have hask : Asking (· = question) seen := sends_awaitUp c _ _ hcourse
  have hsame : ∀ r, r = question → ∃ a, m.serve r = (some a, m) := by
    rintro r rfl
    exact ⟨_, serve_getDeployment ..⟩
  obtain ⟨rfl, hanswers⟩ := hleads.unmoved hsame hask
  have hquiet : mutations seen.reverse = [] := by
    have hlooks : ∀ r, r = question → r.looks = true := by
      rintro r rfl
      rfl
    exact mutations_of_looks hlooks fun e he => hask e (List.mem_reverse.1 he)
  constructor
  case comeTo =>
    refine ⟨hserver, ?_⟩
    rw [hseen, mutations_append, hquiet, h.sent]
    rfl
  case ready =>
    intro hok
    rw [hok] at hcourse
    obtain ⟨u, d, hmem, _, hscale⟩ := course_awaitScale_ok ((Job.course_during_ok ..).1 hcourse)
    -- the deployment that was at the scale is still there
    have hserved := hanswers _ _ _ hmem
    rw [serve_getDeployment] at hserved
    have hd : m'.deployments.get? c.settings.toolbox = some d := by
      injection congrArg Prod.fst hserved with hserved
      injection hserved
    exact ⟨d, hd, isReady_of_atScale hscale⟩

/-- What is done about the deployment that there is. -/
def respond (c : Context) : Option Deployment → Job Unit
  | some d => if isReady d then pure () else scaleUp c
  | none => create c

theorem ensureReady_eq (c : Context) : ensureReady c =
    (Job.ask (.getDeployment c.settings.space c.settings.toolbox)).during
      "unable to determine rook-ceph-tools deployment status" >>= respond c := by
  unfold ensureReady
  congr 1
  funext existing
  cases existing <;> rfl

/-- First it is looked at what there is. -/
theorem run_ensureReady (h : ComeTo m sent t) : ∃ u, ComeTo m sent u ∧
    (ensureReady c).attempt.run Rehearsal.server cancelAt t =
      (respond c (m.deployments.get? c.settings.toolbox)).attempt.run
        Rehearsal.server cancelAt u := by
  obtain ⟨u, hu, hrun⟩ := h.look cancelAt rfl
    (serve_getDeployment m c.settings.space c.settings.toolbox)
  rw [ensureReady_eq]
  exact ⟨u, hu, Job.run_bind_of_ok (Job.run_during_ok.2 hrun)⟩

/-- Where a pod is ready nothing is left to do. -/
theorem run_ready (h : ComeTo m sent t) (ready : ReadyIn c.settings m) : ∃ u, ComeTo m sent u ∧
    (ensureReady c).attempt.run Rehearsal.server cancelAt t = (.done (.ok ()), u) := by
  obtain ⟨d, hd, hready⟩ := ready
  obtain ⟨u, hu, hrun⟩ := run_ensureReady c cancelAt h
  have hnothing : respond c (m.deployments.get? c.settings.toolbox) = pure () := by
    rw [hd, respond, if_pos hready]
  rw [hnothing] at hrun
  exact ⟨u, hu, hrun⟩

/-- A dormant toolbox is scaled up, which the cluster may refuse. -/
theorem endsAt_scaleUp (h : ComeTo m sent t) : ∃ m',
    EndsAt c.settings m'
      (.patchDeployment c.settings.space c.settings.toolbox (scalePatch 1) :: sent)
      ((scaleUp c).attempt.run Rehearsal.server cancelAt t) := by
  let r : Request := .patchDeployment c.settings.space c.settings.toolbox (scalePatch 1)
  obtain ⟨a, m', hserve⟩ : ∃ a m', m.serve r = (some a, m') := ⟨_, _, rfl⟩
  obtain ⟨u, hu, hrun⟩ := h.mutate cancelAt rfl hserve
  refine ⟨m', ?_⟩
  cases a with
  | error f =>
      rw [scaleUp, Job.run_bind_of_error (Job.run_during_error hrun)]
      exact ⟨hu, nofun⟩
  | ok a =>
      rw [scaleUp, Job.run_bind_of_ok (Job.run_during_ok.2 hrun)]
      exact endsAt_awaitUp c cancelAt hu

/-! ## Starting one -/

/-- The image is that of the operator, or there is none and the start fails. -/
theorem run_operatorImage (h : ComeTo m sent t) : ∃ u, ComeTo m sent u ∧
    ((∃ image, imageOf s m = some image ∧
        (operatorImage s).attempt.run Rehearsal.server cancelAt t = (.done (.ok image), u)) ∨
      (imageOf s m = none ∧ ∃ f,
        (operatorImage s).attempt.run Rehearsal.server cancelAt t = (.done (.error f), u))) := by
  obtain ⟨u, hu, hrun⟩ := h.look cancelAt rfl
    (serve_getDeployment m s.space s.operator)
  refine ⟨u, hu, ?_⟩
  rw [operatorImage, Job.run_bind_of_ok hrun, imageOf]
  cases m.deployments.get? s.operator with
  | none => exact .inr ⟨rfl, _, rfl⟩
  | some d =>
      rw [Option.bind_some]
      cases himage : d.firstImage? with
      | none => exact .inr ⟨rfl, _, by simp only [himage]; rfl⟩
      | some image => exact .inl ⟨image, rfl, by simp only [himage]; rfl⟩

/-- Without an image nothing is created. -/
theorem run_create_impossible (h : ComeTo m sent t) (unknown : imageOf c.settings m = none) :
    ∃ f u, ComeTo m sent u ∧ (create c).attempt.run Rehearsal.server cancelAt t =
      (.done (.error (.during "unable to determine rook-ceph-operator image" f)), u) := by
  obtain ⟨t₁, h₁, hreport⟩ := h.report cancelAt
    "The rook-ceph-toolbox deployment does not exist, starting it"
  obtain ⟨t₂, h₂, ⟨image, known, _⟩ | ⟨_, f, himage⟩⟩ :=
    run_operatorImage cancelAt h₁
  · rw [unknown] at known
    cases known
  · refine ⟨f, t₂, h₂, ?_⟩
    rw [create, Job.run_bind_of_ok hreport, Job.run_bind_of_error (Job.run_during_error himage)]

/-- A deployment is created, and waited for. -/
theorem endsAt_create {image : String} (h : ComeTo m sent t)
    (absent : m.deployments.get? c.settings.toolbox = none)
    (known : imageOf c.settings m = some image) : ∃ m',
    EndsAt c.settings m' (.createDeployment c.settings.space
        (deployment c.settings.space c.settings.toolbox image) :: sent)
      ((create c).attempt.run Rehearsal.server cancelAt t) := by
  obtain ⟨t₁, h₁, hreport⟩ := h.report cancelAt
    "The rook-ceph-toolbox deployment does not exist, starting it"
  obtain ⟨t₂, h₂, ⟨image', known', himage⟩ | ⟨unknown, _⟩⟩ :=
    run_operatorImage cancelAt h₁
  case inr =>
    rw [known] at unknown
    cases unknown
  obtain rfl : image = image' := Option.some.inj (known.symm.trans known')
  obtain ⟨m', hserve⟩ : ∃ m', m.serve (.createDeployment c.settings.space
      (deployment c.settings.space c.settings.toolbox image)) = (some (.ok ()), m') :=
    ⟨_, serve_createDeployment absent⟩
  obtain ⟨t₃, h₃, hcreate⟩ := h₂.mutate cancelAt rfl hserve
  obtain ⟨t₄, h₄, hwaiting⟩ := h₃.report cancelAt
    "Waiting for rook-ceph-toolbox to start"
  have hdone := endsAt_awaitUp c cancelAt h₄
  refine ⟨m', ?_⟩
  rw [create, Job.run_bind_of_ok hreport, Job.run_bind_of_ok (Job.run_during_ok.2 himage),
    Job.run_bind_of_ok (Job.run_during_ok.2 hcreate), Job.run_bind_of_ok hwaiting]
  -- the last line is only told if the wait ends well
  rcases Job.run_bind_cases Rehearsal.server cancelAt (awaitUp c)
    (fun _ => Job.report "Started rook-ceph-toolbox deployment") t₄ with
    ⟨_, t₅, hup⟩ | ⟨hsame, hfailed⟩
  · rw [hup] at hdone
    obtain ⟨t₆, h₆, hstarted⟩ := hdone.comeTo.report cancelAt
      "Started rook-ceph-toolbox deployment"
    rw [Job.run_bind_of_ok hup, hstarted]
    exact ⟨h₆, fun _ => hdone.ready rfl⟩
  · exact ⟨hsame ▸ hdone.comeTo, fun hok => absurd hok (hfailed ())⟩

/-! ## Calls in a row -/

/-- A call on a cluster that is left alone. -/
def call (c : Context) (cancelAt : Option Nat) (now : Nat) (h : Rehearsal) :
    Ending (Attempt Unit) × Timeline Rehearsal :=
  (ensureReady c).attempt.run Rehearsal.server cancelAt ⟨now, h, []⟩

/-- A call sends what the cluster needs, and ends well only if some pod is ready then. -/
theorem endsAt_call (c : Context) (cancelAt : Option Nat) (now : Nat) {h : Rehearsal}
    (ha : h.LeftAlone m) : ∃ m' sent, Needs c.settings m sent ∧
      EndsAt c.settings m' sent (call c cancelAt now h) := by
  have hbegin : ComeTo m [] ⟨now, h, []⟩ := ⟨ha, rfl⟩
  obtain ⟨u, hu, hrun⟩ := run_ensureReady c cancelAt hbegin
  rw [call, hrun]
  cases htoolbox : m.deployments.get? c.settings.toolbox with
  | some d =>
      cases hready : isReady d with
      | true =>
          have ready : ReadyIn c.settings m := ⟨d, htoolbox, hready⟩
          rw [respond, if_pos hready]
          exact ⟨m, [], .nothing ready, hu, fun _ => ready⟩
      | false =>
          rw [respond, if_neg (by simp [hready])]
          obtain ⟨m', hend⟩ := endsAt_scaleUp c cancelAt hu
          exact ⟨m', _, .scale htoolbox hready, hend⟩
  | none =>
      rw [respond]
      cases himage : imageOf c.settings m with
      | some image =>
          obtain ⟨m', hend⟩ := endsAt_create c cancelAt hu htoolbox himage
          exact ⟨m', _, .creation htoolbox himage, hend⟩
      | none =>
          obtain ⟨f, v, hv, hfailed⟩ := run_create_impossible c cancelAt hu himage
          rw [hfailed]
          exact ⟨m, [], .impossible htoolbox himage, hv, nofun⟩

/-- What a call on a cluster that is left alone does, and what a second one does after it. -/
structure Ensures (c : Context) (cancelAt : Option Nat) (now : Nat) (m : MiniCluster) : Prop where
  /-- One call sends at most one request that is not a question: what the cluster needs. -/
  needs : Needs c.settings m (mutations (call c cancelAt now { cluster := m }).2.seen)
  /-- After a call that ended well another one ends well, sends nothing but questions and leaves
  the cluster as it is, whenever it begins and whenever it would be cancelled. -/
  again : (call c cancelAt now { cluster := m }).1 = .done (.ok ()) → ∀ cancelAt' later,
    let first := call c cancelAt now { cluster := m }
    let second := call c cancelAt' later first.2.server
    second.1 = .done (.ok ()) ∧ mutations second.2.seen = [] ∧
      second.2.server.cluster = first.2.server.cluster
  /-- Without a toolbox and without an image for it a call fails and changes nothing. -/
  impossible : m.deployments.get? c.settings.toolbox = none → imageOf c.settings m = none →
    ∃ f, (call c cancelAt now { cluster := m }).1 =
        .done (.error (.during "unable to determine rook-ceph-operator image" f)) ∧
      mutations (call c cancelAt now { cluster := m }).2.seen = [] ∧
      (call c cancelAt now { cluster := m }).2.server.cluster = m

/-- To make sure of the toolbox is done once and for all, on every cluster and with all settings. -/
theorem ready_twice (c : Context) (cancelAt : Option Nat) (now : Nat) (m : MiniCluster) :
    Ensures c cancelAt now m := by
  have ha : Rehearsal.LeftAlone m { cluster := m } := ⟨none, rfl⟩
  obtain ⟨m', sent, hneeds, hend⟩ := endsAt_call c cancelAt now ha
  constructor
  case needs =>
    rw [hend.comeTo.sent]
    exact hneeds
  case again =>
    intro hok cancelAt' later
    have hbegin : ComeTo m' [] ⟨later, (call c cancelAt now { cluster := m }).2.server, []⟩ :=
      ⟨hend.comeTo.server, rfl⟩
    obtain ⟨u, hu, hrun⟩ := run_ready c cancelAt' hbegin (hend.ready hok)
    intro first second
    have hsecond : second = (.done (.ok ()), u) := hrun
    rw [hsecond]
    exact ⟨rfl, hu.sent, hu.cluster.trans hend.comeTo.cluster.symm⟩
  case impossible =>
    intro absent unknown
    have hbegin : ComeTo m [] ⟨now, { cluster := m }, []⟩ := ⟨ha, rfl⟩
    obtain ⟨u, hu, hrun⟩ := run_ensureReady c cancelAt hbegin
    rw [absent, respond] at hrun
    obtain ⟨f, v, hv, hfailed⟩ := run_create_impossible c cancelAt hu unknown
    have hcall : call c cancelAt now { cluster := m } =
        (.done (.error (.during "unable to determine rook-ceph-operator image" f)), v) :=
      hrun.trans hfailed
    rw [hcall]
    exact ⟨f, rfl, hv.sent, hv.cluster⟩

/-- With stock settings the first call on a cluster without a toolbox ends well. -/
example : (call ⟨Settings.standard, 3⟩ none 0 { cluster := operated }).1.result? =
    some (.ok ()) := by
  decide +kernel

end Toolbox

end OsdMigration
