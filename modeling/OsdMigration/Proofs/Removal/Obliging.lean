import OsdMigration.Proofs.Course.Smooth
import OsdMigration.Proofs.Removal.Gate

set_option autoImplicit false

/-! # A cluster that obliges

A cluster that answers every request at once, has the toolbox up, finds that everything can go, and
reads its reports from a list. Three reports are enough for it to let an OSD be purged: a healthy
one, one with an OSD down, and a healthy one (`purge_sent`).
-/

namespace OsdMigration.Removal

open Ceph (Command Status)
open Cluster (CommandOutput)
open Job (Smooth)

/-- A deployment with a number of ready pods, of which it says nothing else. -/
def deploymentWith (ready : Int) : Cluster.Deployment :=
  { status := some { ready := some ready } }

/-- What the obliging cluster says to a command other than the one that asks for its status. -/
def assurance : String := "OSD(s) 0 are safe to destroy without reducing data durability"

/-- The obliging cluster. Its state is the texts of the reports to come. -/
def obliging : Server (List String) where
  receive _ _ texts := (some 0, texts)
  answer _ r texts :=
    match r with
    | .getDeployment _ name =>
      (some (.ok (some (deploymentWith (if name = "rook-ceph-tools" then 1 else 0)))), texts)
    | .listPods .. =>
      (some (.ok [{ spec := some { containers := [{ name := "rook-ceph-tools" }] } }]), texts)
    | .exec _ _ _ argv =>
      if argv = Command.status.argv then
        (some (.ok (.success (texts.headD ""))), texts.tail)
      else (some (.ok (.success assurance)), texts)
    | .listNodes => (some (.ok []), texts)
    | .patchDeployment .. | .createDeployment .. | .deleteDeployment .. | .deletePods ..
    | .patchCluster .. => (some (.ok ()), texts)

/-- Stock settings, but that one poll settles a cluster. -/
def hasty : Context := ⟨{ Settings.standard with safeConfirmations := 1 }, 1⟩

section

variable {text : String} {status : Status} (texts : List String) (now : Nat) (osd : UInt32)

theorem smooth_ensureReady :
    Smooth obliging (Toolbox.ensureReady hasty) now texts () now texts [] :=
  (Smooth.during _ (.ask rfl rfl)).bind (.pure ())

/-- A command is run in the toolbox, once its request is answered. -/
theorem smooth_run_of_ask {argv : List String} {words : String} {texts' : List String}
    {rs : List Status}
    (hask : Smooth obliging (Job.ask (.exec "rook-ceph" "" "rook-ceph-tools" argv)) now texts
      (.success words) now texts' rs) :
    Smooth obliging (Toolbox.run hasty.settings argv) now texts (.success words) now texts' rs := by
  refine (Smooth.during _ (.ask rfl rfl)).silent_bind ?_
  refine (Smooth.ofAttempt rfl).silent_bind (a := ("", "rook-ceph-tools")) ?_
  exact (Smooth.guarded (p := ⟨0, none⟩) (by simp) hask).bind_silent
    ((Smooth.ofAttempt rfl).silent_bind (.pure _))

/-- A command but the one for the status is run. -/
theorem smooth_run {argv : List String} (h : argv ≠ Command.status.argv) :
    Smooth obliging (Toolbox.run hasty.settings argv) now texts (.success assurance) now texts [] := by
  have hr : reports [.called now (.exec "rook-ceph" "" "rook-ceph-tools" argv),
      .answered now (.exec "rook-ceph" "" "rook-ceph-tools" argv)
        (.ok (.success assurance))] = [] := by
    rw [reports_answered, Event.report?, if_neg fun hs => h hs.1]
    rfl
  have hask : Smooth obliging (Job.ask (.exec "rook-ceph" "" "rook-ceph-tools" argv)) now texts
      (.success assurance) now texts [] := by
    rw [← hr]
    exact .ask rfl (by simp [obliging, h])
  exact smooth_run_of_ask texts now hask

/-- The next report is read. -/
theorem smooth_fetchStatus (h : Status.parse? text = some status) :
    Smooth obliging (Monitor.fetchStatus hasty) now (text :: texts) status now texts [status] := by
  have hr : reports [.called now (.exec "rook-ceph" "" "rook-ceph-tools" Command.status.argv),
      .answered now (.exec "rook-ceph" "" "rook-ceph-tools" Command.status.argv)
        (.ok (.success text))] = [status] := by
    rw [reports_answered, Event.report?, if_pos ⟨rfl, rfl⟩, CommandOutput.success, h]
    rfl
  have hask : Smooth obliging
      (Job.ask (.exec "rook-ceph" "" "rook-ceph-tools" Command.status.argv)) now (text :: texts)
      (.success text) now texts [status] := by
    rw [← hr]
    exact .ask rfl (by simp [obliging])
  refine (Smooth.during _ (smooth_ensureReady _ _)).silent_bind ?_
  refine (Smooth.during _ (smooth_run_of_ask _ now hask)).bind_silent ?_
  refine Smooth.during _ (.ofAttempt ?_)
  simp [Monitor.readStatus, CommandOutput.success, h]

theorem smooth_askRemovability :
    ∃ answer, answer.removability = .safe ∧
      Smooth obliging (Monitor.askRemovability hasty osd) now texts answer now texts [] := by
  have hne : (Command.safeToDestroy osd).argv ≠ Command.status.argv := fun h => by
    cases Command.argv_injective h
  refine ⟨_, ?_, Smooth.during _ ((smooth_run texts now hne).map rfl)⟩
  decide +kernel

/-- One poll settles the cluster. -/
theorem smooth_settle (h : Status.parse? text = some status) (hv : status.verdict.1 = true) :
    Smooth obliging (awaitRemovable hasty osd none) now (text :: texts) () now texts [status] := by
  obtain ⟨answer, hsafe, ha⟩ := smooth_askRemovability texts now osd
  refine (Smooth.start _ (by simp)).silent_bind (Smooth.wait ?_)
  refine (Smooth.guarded (by simp) (smooth_fetchStatus texts now h)).bind_silent ?_
  simp only [hv, if_true]
  refine (Smooth.guarded (by simp) ha).silent_bind (Smooth.ofAttempt ?_)
  obtain ⟨removability, words⟩ := answer
  subst hsafe
  rfl

theorem smooth_command {cmd : Command} {words : String} (h : cmd ≠ .status) :
    Smooth obliging (do Job.report words; command hasty.settings cmd) now texts () now texts [] := by
  have hne : cmd.argv ≠ Command.status.argv := fun he => h (Command.argv_injective he)
  exact (Smooth.report _).silent_bind
    ((Smooth.during _ (smooth_run texts now hne)).silent_bind (Smooth.pure ()))

/-- An OSD's deployment is not the toolbox. -/
theorem osdDeployment_ne_toolbox (osd : UInt32) :
    hasty.settings.osdDeployment osd ≠ "rook-ceph-tools" := by
  intro h
  have hc := congrArg (fun s : String => s.toList[10]?) h
  simp [Settings.osdDeployment, hasty, Settings.standard] at hc

/-! ## The steps -/

theorem smooth_reweight :
    Smooth obliging (Step.reweight.perform hasty osd) now texts () now texts [] :=
  smooth_command texts now nofun

theorem smooth_settleBefore (h : Status.parse? text = some status) (hv : status.verdict.1 = true) :
    Smooth obliging (Step.settleBefore.perform hasty osd) now (text :: texts) () now texts [status] :=
  (Smooth.report _).silent_bind (Smooth.during _ (smooth_settle texts now osd h hv))

theorem smooth_confirmScale (hclock : now + 600000 < Clock.length) :
    Smooth obliging (Step.confirmScale.perform hasty osd) now texts () now texts [] := by
  refine Smooth.during _ ((Smooth.report _).silent_bind
    ((Smooth.start _ (Clock.reaches_some.2 hclock)).silent_bind (Smooth.wait ?_)))
  have hask : Smooth obliging
      (Job.ask (.getDeployment hasty.settings.space (hasty.settings.osdDeployment osd))) now texts
      (some (deploymentWith 0)) now texts [] := by
    refine Smooth.ask rfl ?_
    simp only [obliging, if_neg (osdDeployment_ne_toolbox osd)]
  refine (Smooth.guarded ?_ hask).silent_bind (Smooth.ofAttempt ?_)
  · simp
  · rfl

theorem smooth_awaitDown (hclock : now + 600000 < Clock.length)
    (h : Status.parse? text = some status) (hd : status.osds.up < status.osds.total) :
    Smooth obliging (Step.awaitDown.perform hasty osd) now (text :: texts) () now texts [status] := by
  refine (Smooth.tell _).silent_bind ?_
  have hwait : Smooth obliging
      (awaitOsdDown hasty (some (Settings.seconds hasty.settings.osdDownTimeout))) now (text :: texts)
      () now texts [status] := by
    refine (Smooth.start _ (Clock.reaches_some.2 hclock)).silent_bind (Smooth.wait ?_)
    refine (Smooth.guarded ?_ (smooth_fetchStatus texts now h)).bind_silent
      (Smooth.ofAttempt ?_)
    · simp
    · simp [DownWait.observe, Ceph.OsdCounts.someDown, hd]
  exact (Smooth.during _ hwait).bind_silent (Smooth.tell _)

theorem smooth_settleAfter (h : Status.parse? text = some status) (hv : status.verdict.1 = true) :
    Smooth obliging (Step.settleAfter.perform hasty osd) now (text :: texts) () now texts [status] :=
  Smooth.during _ (smooth_settle texts now osd h hv)

theorem run_scaleDown (seen : List Event) :
    ∃ m, (Step.scaleDown.perform hasty osd).attempt.run obliging none ⟨now, texts, seen⟩ =
      (.done (.ok ()), ⟨now, texts, .answered now (scaleDownRequest hasty.settings osd) (.ok ()) ::
        .called now (scaleDownRequest hasty.settings osd) :: .told now m :: seen⟩) := ⟨_, rfl⟩

/-- The purge is sent. -/
theorem run_purge (seen : List Event) :
    ∃ ready t pod container answer,
      Asking (fun r => r = .listPods hasty.settings.space hasty.settings.toolboxSelector) ready ∧
      (Step.purge.perform hasty osd).attempt.run obliging none ⟨now, texts, seen⟩ =
        (.done (.ok ()), ⟨now, texts, answer :: .called t
          (.exec hasty.settings.space pod container (Command.purge osd).argv) ::
            (ready.reverse ++ seen)⟩) := by
  have purge : Smooth obliging (Step.purge.perform hasty osd) now texts () now texts [] :=
    smooth_command texts now nofun
  obtain ⟨added, _, hc, h⟩ := purge.run seen
  obtain ⟨ready, rest, o', rfl, hready, hx, ho⟩ := course_command hc
  obtain ⟨output, rfl⟩ := ho.1 rfl
  obtain ⟨_, t, u, pod, container, rfl⟩ := hx.of_ok
  refine ⟨ready, t, pod, container, .answered u (.exec hasty.settings.space pod container
    (Command.purge osd).argv) (.ok output), hready, h.trans ?_⟩
  simp

end

/-- In the light of three reports the obliging cluster lets an OSD be purged. -/
theorem purge_sent {first second third : String} {b d a : Status}
    (hb : Status.parse? first = some b) (hvb : b.verdict.1 = true)
    (hd : Status.parse? second = some d) (hdown : d.osds.up < d.osds.total)
    (ha : Status.parse? third = some a) (hva : a.verdict.1 = true) (osd : UInt32) {now : Nat}
    (hclock : now + 600000 < Clock.length) :
    ∃ before u between t space pod container after,
      ((removeOsd hasty osd).attempt.watch obliging none now [first, second, third]).2 =
        before ++ .answered u (scaleDownRequest hasty.settings osd) (.ok ()) ::
          (between ++ .called t (.exec space pod container (Command.purge osd).argv) :: after) ∧
      reports before = [b] ∧ reports between = [d, a] ∧
      Asking (· ≠ scaleDownRequest hasty.settings osd) between := by
  -- one report is used up by each of the three steps that read one
  obtain ⟨s₁, r₁, c₁, h₁⟩ := (smooth_reweight [first, second, third] now osd).run []
  obtain ⟨s₂, r₂, c₂, h₂⟩ :=
    (smooth_settleBefore [second, third] now osd hb hvb).run (s₁.reverse ++ [])
  obtain ⟨m, h₃⟩ := run_scaleDown [second, third] now osd (s₂.reverse ++ (s₁.reverse ++ []))
  obtain ⟨stopped, hstopped⟩ : ∃ stopped : List Event, stopped =
      .answered now (scaleDownRequest hasty.settings osd) (.ok ()) ::
        .called now (scaleDownRequest hasty.settings osd) :: .told now m ::
          (s₂.reverse ++ (s₁.reverse ++ [])) := ⟨_, rfl⟩
  rw [← hstopped] at h₃
  obtain ⟨s₄, r₄, c₄, h₄⟩ := (smooth_confirmScale [second, third] now osd hclock).run stopped
  obtain ⟨s₅, r₅, c₅, h₅⟩ :=
    (smooth_awaitDown [third] now osd hclock hd hdown).run (s₄.reverse ++ stopped)
  obtain ⟨s₆, r₆, c₆, h₆⟩ :=
    (smooth_settleAfter [] now osd ha hva).run (s₅.reverse ++ (s₄.reverse ++ stopped))
  obtain ⟨ready, t, pod, container, answer, hready, h₇⟩ :=
    run_purge [] now osd (s₆.reverse ++ (s₅.reverse ++ (s₄.reverse ++ stopped)))
  have hrun : ∃ rest : Job Unit,
      (removeOsd hasty osd).attempt.run obliging none ⟨now, [first, second, third], []⟩ =
        rest.attempt.run obliging none ⟨now, [], answer :: .called t
          (.exec hasty.settings.space pod container (Command.purge osd).argv) ::
            (ready.reverse ++ (s₆.reverse ++ (s₅.reverse ++ (s₄.reverse ++ stopped))))⟩ := by
    rw [removeOsd_eq]
    exact ⟨_, (Job.run_bind_of_ok h₁).trans ((Job.run_bind_of_ok h₂).trans
      ((Job.run_bind_of_ok h₃).trans ((Job.run_bind_of_ok h₄).trans ((Job.run_bind_of_ok h₅).trans
        ((Job.run_bind_of_ok h₆).trans (Job.run_bind_of_ok h₇))))))⟩
  obtain ⟨rest, hrun⟩ := hrun
  obtain ⟨more, hmore⟩ := Procedure.watch_of_run hrun
  refine ⟨s₁ ++ s₂ ++ [.told now m, .called now (scaleDownRequest hasty.settings osd)], now,
    s₄ ++ s₅ ++ s₆ ++ ready, t, hasty.settings.space, pod, container, answer :: more,
    ?_, ?_, ?_, ?_⟩
  · rw [hmore, hstopped]
    simp
  · have hq : reports [.told now m, .called now (scaleDownRequest hasty.settings osd)] = [] := rfl
    calc reports (s₁ ++ s₂ ++ [.told now m, .called now (scaleDownRequest hasty.settings osd)])
        = reports s₁ ++ reports s₂ ++
            reports [.told now m, .called now (scaleDownRequest hasty.settings osd)] := by
          rw [reports_append, reports_append]
      _ = [] ++ [b] ++ [] := by rw [r₁, r₂, hq]
      _ = [b] := rfl
  · have hq : reports ready = [] := reports_listing hready
    calc reports (s₄ ++ s₅ ++ s₆ ++ ready)
        = reports s₄ ++ reports s₅ ++ reports s₆ ++ reports ready := by
          rw [reports_append, reports_append, reports_append]
      _ = [] ++ [d] ++ [a] ++ [] := by rw [r₄, r₅, r₆, hq]
      _ = [d, a] := rfl
  · simp only [asking_append]
    refine ⟨⟨⟨waits_once (fun _ => id) c₄, waits_once (fun _ => id) c₅⟩,
      waits_once (fun _ => id) c₆⟩, hready.mono ?_⟩
    rintro r rfl
    nofun

end OsdMigration.Removal
