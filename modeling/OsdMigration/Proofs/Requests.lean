import OsdMigration.Migration
import OsdMigration.Proofs.Course.Always

set_option autoImplicit false

/-! # Who asks what

Most of a migration only looks. The waits of a removal send questions about its deployment, two
commands that ask Ceph, and what it takes to keep the toolbox up (`Asks`); before the first removal
there are also listings of OSDs and nodes, and the change to block devices (`Prepares`). Here this
is shown function by function.
-/

namespace OsdMigration

open Ceph (Command)
open Cluster (Request)
open Job (Always Sends sends_ask)

/-- The requests that keep the toolbox up. -/
inductive Upkeep (s : Settings) : Request → Prop
  | toolbox : Upkeep s (.getDeployment s.space s.toolbox)
  | operator : Upkeep s (.getDeployment s.space s.operator)
  | create (image : String) :
      Upkeep s (.createDeployment s.space (Toolbox.deployment s.space s.toolbox image))
  | scaleUp : Upkeep s (.patchDeployment s.space s.toolbox (Cluster.scalePatch 1))

/-- The requests that only look, or keep the toolbox up. The OSDs and the deployments of OSDs that
they name are given. -/
inductive Asks (s : Settings) (named : UInt32 → Prop) : Request → Prop
  | upkeep {r : Request} (h : Upkeep s r) : Asks s named r
  | toolboxPods : Asks s named (.listPods s.space s.toolboxSelector)
  | deployment {osd : UInt32} (h : named osd) :
      Asks s named (.getDeployment s.space (s.osdDeployment osd))
  | status (pod container : String) :
      Asks s named (.exec s.space pod container Command.status.argv)
  | safeToDestroy {osd : UInt32} (h : named osd) (pod container : String) :
      Asks s named (.exec s.space pod container (Command.safeToDestroy osd).argv)

/-- The requests that only look at what OSDs and nodes there are. -/
inductive Looks (s : Settings) : Request → Prop
  | osdPods : Looks s (.listPods s.space s.osdSelector)
  | nodes : Looks s .listNodes

/-- The changes of the cluster object. -/
inductive Reshapes (s : Settings) : Request → Prop
  | useDevices : Reshapes s (Provisioning.change s Cluster.useAllDevicesPatch)
  | dropDirectories : Reshapes s (Provisioning.change s Cluster.dropDirectoriesPatch)

/-- The requests before the first removal. They name no OSD. -/
inductive Prepares (s : Settings) : Request → Prop
  | asks {r : Request} (h : Asks s (fun _ => False) r) : Prepares s r
  | osdPods : Prepares s (.listPods s.space s.osdSelector)
  | nodes : Prepares s .listNodes
  | useDevices : Prepares s (Provisioning.change s Cluster.useAllDevicesPatch)
  | dropDirectories : Prepares s (Provisioning.change s Cluster.dropDirectoriesPatch)
  | restartOperator : Prepares s (.deletePods s.space s.operatorSelector)

theorem Looks.prepares {s : Settings} {r : Request} (h : Looks s r) : Prepares s r := by
  cases h with
  | osdPods => exact .osdPods
  | nodes => exact .nodes

theorem Reshapes.prepares {s : Settings} {r : Request} (h : Reshapes s r) : Prepares s r := by
  cases h with
  | useDevices => exact .useDevices
  | dropDirectories => exact .dropDirectories

/-! ## The toolbox

What holds of the lines that stay and of the requests that a function makes holds of the function.
-/

/-- A wait for a scale waits in silence. -/
theorem observe_scale_silent {g : ScaleWait.Goal} {w w' : ScaleWait}
    {a : Attempt (Option Cluster.Deployment)} {passing : Option String}
    (h : ScaleWait.observe g w a = .ok (.again w' passing)) : passing = none := by
  unfold ScaleWait.observe at h
  split at h
  · simp only at h
    split at h
    · cases h
    · split at h <;> cases h
      rfl
  all_goals
    cases hs : w.budget.spend _ with
    | error f =>
        rw [hs] at h
        cases h
    | ok b =>
        rw [hs] at h
        cases h
        rfl

namespace Joining

variable {P : List Event → Prop} (hP : Joining P) (c : Context)
  (hreport : ∀ text, Always P (Job.report text))

include hP hreport

/-- A wait for a scale only looks at its deployment. -/
theorem awaitScale (name : String) (scale : Int) (timeout : Nat)
    (h : Always P (Job.ask (.getDeployment c.settings.space name))) :
    Always P (awaitScale c name scale timeout) := by
  refine hP.bind (hreport _) fun _ => hP.bind (hP.start _ _) fun p =>
    hP.wait p _ (fun w => ?_) ?_ _ _
  · exact hP.bind (hP.guarded p _ h) fun _ => hP.ofAttempt _
  · intro w seen w' text h
    obtain ⟨a, _, _, _, _, _, ho⟩ := (Job.course_bind_ok ..).1 h
    cases observe_scale_silent (Option.some.inj ho).symm

theorem ensureReady (h : ∀ r, Upkeep c.settings r → Always P (Job.ask r)) :
    Always P (Toolbox.ensureReady c) := by
  have hup : Always P (Toolbox.awaitUp c) :=
    Cumulative.during _ (hP.awaitScale c hreport _ _ _ (h _ .toolbox))
  refine hP.bind (Cumulative.during _ (h _ .toolbox)) fun existing => ?_
  cases existing with
  | some d =>
      simp only
      split
      · exact hP.pure ()
      · exact hP.bind (Cumulative.during _ (h _ .scaleUp)) fun _ => hup
  | none =>
      refine hP.bind (hreport _) fun _ => hP.bind (Cumulative.during _ ?_) fun image =>
        hP.bind (Cumulative.during _ (h _ (.create image))) fun _ =>
          hP.bind (hreport _) fun _ => hP.bind hup fun _ => hreport _
      refine hP.bind (h _ .operator) fun d => ?_
      cases d with
      | none => exact hP.fail _
      | some d =>
          simp only
          split
          · exact hP.pure _
          · exact hP.fail _

omit hreport in
/-- Running a command takes two requests. -/
theorem command (s : Settings) (argv : List String)
    (hp : Always P (Job.ask (.listPods s.space s.toolboxSelector)))
    (he : ∀ pod container, Always P (Job.ask (.exec s.space pod container argv))) :
    Always P (Toolbox.run s argv) := by
  refine hP.bind (Cumulative.during _ hp) fun pods => hP.bind (hP.ofAttempt _)
    fun ⟨pod, container⟩ => hP.bind ?_ fun answer => hP.bind (hP.ofAttempt answer) fun output => ?_
  · exact hP.guarded ⟨0, none⟩ _ (he pod container)
  · split
    · exact hP.pure _
    · exact hP.fail _

theorem fetchStatus (h : ∀ r, Asks c.settings (fun _ => False) r → Always P (Job.ask r)) :
    Always P (Monitor.fetchStatus c) := by
  have hready : Always P (Toolbox.ensureReady c) :=
    hP.ensureReady c hreport fun r hr => h r (.upkeep hr)
  have hrun : Always P (Toolbox.run c.settings Command.status.argv) :=
    hP.command _ _ (h _ .toolboxPods) fun pod container => h _ (.status pod container)
  exact hP.bind (Cumulative.during _ hready) fun _ => hP.bind (Cumulative.during _ hrun) fun _ =>
    Cumulative.during _ (hP.ofAttempt _)

end Joining

theorem sends_awaitScale {allowed : Request → Prop} (c : Context) (name : String) (scale : Int)
    (timeout : Nat) (h : allowed (.getDeployment c.settings.space name)) :
    Sends allowed (awaitScale c name scale timeout) :=
  have hA := cumulative_asking allowed
  hA.awaitScale c hA.report _ _ _ (sends_ask h)

section

variable (c : Context) {named : UInt32 → Prop}

theorem sends_ensureReady : Sends (Upkeep c.settings) (Toolbox.ensureReady c) :=
  have hA := cumulative_asking (Upkeep c.settings)
  hA.ensureReady c hA.report fun _ => sends_ask

theorem sends_run {allowed : Request → Prop} (s : Settings) (argv : List String)
    (hp : allowed (.listPods s.space s.toolboxSelector))
    (he : ∀ pod container, allowed (.exec s.space pod container argv)) :
    Sends allowed (Toolbox.run s argv) :=
  (cumulative_asking allowed).command s argv (sends_ask hp) fun pod container =>
    sends_ask (he pod container)

/-! ## Asking Ceph -/

theorem Asks.mono {s : Settings} {named others : UInt32 → Prop} {r : Request}
    (h : Asks s named r) (hn : ∀ osd, named osd → others osd) : Asks s others r := by
  cases h with
  | upkeep h => exact .upkeep h
  | toolboxPods => exact .toolboxPods
  | deployment h => exact .deployment (hn _ h)
  | status pod container => exact .status pod container
  | safeToDestroy h pod container => exact .safeToDestroy (hn _ h) pod container

theorem sends_fetchStatus : Sends (Asks c.settings named) (Monitor.fetchStatus c) :=
  have hA := cumulative_asking (Asks c.settings named)
  hA.fetchStatus c hA.report fun _ h => sends_ask (h.mono fun _ => False.elim)

theorem sends_askRemovability {osd : UInt32} (h : named osd) :
    Sends (Asks c.settings named) (Monitor.askRemovability c osd) := by
  refine Cumulative.during _ fun seen o hc => ?_
  obtain ⟨o', hc, _⟩ := (Job.course_map ..).1 hc
  exact sends_run _ _ .toolboxPods (.safeToDestroy h) seen o' hc

/-! ## Waits -/

theorem sends_awaitHealth (timeout : Option Nat) :
    Sends (Asks c.settings named) (awaitHealth c timeout) := by
  have hA := cumulative_asking (Asks c.settings named)
  refine hA.bind (hA.start _ _) fun p => hA.bind (hA.report _) fun _ =>
    hA.wait p _ (fun w => ?_) _ _
  exact hA.bind (hA.guarded p _ (sends_fetchStatus c)) fun _ => hA.ofAttempt _

theorem sends_awaitOsdDown (timeout : Option Nat) :
    Sends (Asks c.settings named) (awaitOsdDown c timeout) := by
  have hA := cumulative_asking (Asks c.settings named)
  refine hA.bind (hA.start _ _) fun p => hA.wait p _ (fun w => ?_) _ _
  exact hA.bind (hA.guarded p _ (sends_fetchStatus c)) fun _ => hA.ofAttempt _

theorem sends_awaitRemovable {osd : UInt32} (h : named osd) (timeout : Option Nat) :
    Sends (Asks c.settings named) (awaitRemovable c osd timeout) := by
  have hA := cumulative_asking (Asks c.settings named)
  refine hA.bind (hA.start _ _) fun p => hA.wait p _ (fun w => ?_) _ _
  refine hA.bind (hA.guarded p _ (sends_fetchStatus c)) fun report => ?_
  cases report with
  | error f => exact hA.ofAttempt _
  | ok status =>
      simp only
      split
      · exact hA.bind (hA.guarded p _ (sends_askRemovability c h)) fun _ => hA.ofAttempt _
      · exact hA.ofAttempt _

/-! ## Before the first removal -/

theorem looks_inventory : Sends (Looks c.settings) (Osd.inventory c.settings) := by
  have hA := cumulative_asking (Looks c.settings)
  exact hA.bind (Cumulative.during _ (sends_ask .osdPods)) fun _ => hA.ofAttempt _

theorem looks_countHostsNow : Sends (Looks c.settings) (Osd.countHostsNow c.settings) := by
  have hA := cumulative_asking (Looks c.settings)
  exact hA.bind (looks_inventory c) fun _ => hA.pure _

theorem looks_awaitBlockHosts : Sends (Looks c.settings) (awaitBlockHosts c) := by
  have hA := cumulative_asking (Looks c.settings)
  refine hA.bind ?_ fun wanted => hA.bind (hA.start _ _) fun p => hA.wait p _ (fun w => ?_) _ _
  · exact hA.bind (hA.bind (Cumulative.during _ (sends_ask .nodes)) fun _ => hA.pure _) fun _ =>
      hA.pure _
  · exact hA.bind (hA.guarded p _ (looks_countHostsNow c)) fun _ => hA.ofAttempt _

theorem looks_hostpathOsds : Sends (Looks c.settings) (Osd.hostpathOsds c.settings) := by
  have hA := cumulative_asking (Looks c.settings)
  exact hA.bind (looks_inventory c) fun _ => hA.pure _

theorem sends_countHostsNow : Sends (Prepares c.settings) (Osd.countHostsNow c.settings) :=
  (looks_countHostsNow c).mono fun _ => Looks.prepares

theorem sends_awaitBlockHosts : Sends (Prepares c.settings) (awaitBlockHosts c) :=
  (looks_awaitBlockHosts c).mono fun _ => Looks.prepares

theorem sends_hostpathOsds : Sends (Prepares c.settings) (Osd.hostpathOsds c.settings) :=
  (looks_hostpathOsds c).mono fun _ => Looks.prepares

theorem sends_prepare : Sends (Prepares c.settings) (Migration.prepare c) := by
  have hA := cumulative_asking (Prepares c.settings)
  refine hA.bind (hA.report _) fun _ => hA.bind (Cumulative.during _ ?_) fun _ =>
    Cumulative.during _ ((sends_awaitHealth c _).mono fun _ => .asks)
  exact (sends_ensureReady c).mono fun _ h => .asks (.upkeep h)

theorem reshapes_enableBlock :
    Sends (Reshapes c.settings) (Provisioning.enableBlock c.settings) := by
  have hA := cumulative_asking (Reshapes c.settings)
  refine hA.bind (Cumulative.during _ (sends_ask .useDevices)) fun _ => hA.bind ?_ fun dropped => ?_
  · intro seen o h
    obtain ⟨o', h, _⟩ := (Job.course_ofProcedure ..).1 h
    exact sends_ask (r := Provisioning.change c.settings Cluster.dropDirectoriesPatch)
      .dropDirectories seen o' h
  · cases dropped with
    | ok _ => exact hA.pure ()
    | error f => exact hA.report _

theorem sends_enableBlock : Sends (Prepares c.settings) (Provisioning.enableBlock c.settings) :=
  (reshapes_enableBlock c).mono fun _ => Reshapes.prepares

theorem sends_nudgeOperator :
    Sends (Prepares c.settings) (Provisioning.nudgeOperator c.settings) := by
  have hA := cumulative_asking (Prepares c.settings)
  refine hA.bind (sends_countHostsNow c) fun counts => ?_
  split
  · exact hA.pure ()
  · exact hA.bind (hA.report _) fun _ => Cumulative.during _ (sends_ask .restartOperator)

theorem sends_provision : Sends (Prepares c.settings) (Migration.provision c) := by
  have hA := cumulative_asking (Prepares c.settings)
  exact hA.bind (hA.report _) fun _ => hA.bind (Cumulative.during _ (sends_enableBlock c)) fun _ =>
    hA.bind (Cumulative.during _ (sends_nudgeOperator c)) fun _ => hA.bind (hA.report _) fun _ =>
      Cumulative.during _ (sends_awaitBlockHosts c)

/-- What holds of the requests before the first removal, and of every removal, holds of a migration.
-/
theorem Cumulative.migrate {P : List Event → Prop} (hP : Cumulative P)
    (hprepare : ∀ seen, Asking (Prepares c.settings) seen → P seen)
    (hremove : ∀ osd, Always P (removeOsd c osd)) : Always P (OsdMigration.migrate c) := by
  have prepare : ∀ {α : Type} {job : Job α}, Sends (Prepares c.settings) job → Always P job :=
    fun h => Always.mono h hprepare
  refine hP.bind (prepare (sends_prepare c)) fun _ => hP.bind (hP.report _) fun _ =>
    hP.bind (prepare (Cumulative.during _ (sends_countHostsNow c))) fun counts => ?_
  split
  · exact hP.bind (hP.report _) fun _ => hP.pure _
  · refine hP.bind (hP.report _) fun _ => hP.bind (prepare (sends_provision c)) fun _ =>
      hP.bind ?_ fun osds => hP.bind (hP.report _) fun _ => hP.pure _
    refine hP.bind (hP.report _) fun _ =>
      hP.bind (prepare (Cumulative.during _ (sends_hostpathOsds c))) fun found =>
        hP.bind (hP.report _) fun _ => hP.bind (hP.forM _ fun osd _ => ?_) fun _ => hP.pure _
    exact Cumulative.during _ (hremove osd)

end

end OsdMigration
