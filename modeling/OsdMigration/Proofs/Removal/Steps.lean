import OsdMigration.Proofs.Wait

set_option autoImplicit false

/-! # The steps of a removal

Four steps of a removal change something and four wait. Each sends its one change and nothing else
besides the requests of the waits (`sends_perform`); and for each step there is what was seen when
it succeeded, which is why it counts as done.
-/

namespace OsdMigration.Removal

open Ceph (Command)
open Cluster (Request)
open Job (Course Sends sends_ask)

/-- The request that scales the deployment of an OSD down. -/
def scaleDownRequest (s : Settings) (osd : UInt32) : Request :=
  .patchDeployment s.space (s.osdDeployment osd) (Cluster.scalePatch 0)

/-- The change that a step makes; the steps that wait make none. -/
def Step.Changes (s : Settings) (osd : UInt32) : Step → Request → Prop
  | .reweight, r => ∃ pod container, r = .exec s.space pod container (Command.reweight osd).argv
  | .scaleDown, r => r = scaleDownRequest s osd
  | .purge, r => ∃ pod container, r = .exec s.space pod container (Command.purge osd).argv
  | .cleanUp, r => r = .deleteDeployment s.space (s.osdDeployment osd)
  | .settleBefore, _ | .confirmScale, _ | .awaitDown, _ | .settleAfter, _ => False

/-- What a step sends: its change, and the requests of a wait that name no other OSD. -/
def Step.Sent (s : Settings) (osd : UInt32) (step : Step) (r : Request) : Prop :=
  step.Changes s osd r ∨ Asks s (· = osd) r

theorem sends_command {allowed : Request → Prop} {s : Settings} {cmd : Command}
    (hp : allowed (.listPods s.space s.toolboxSelector))
    (he : ∀ pod container, allowed (.exec s.space pod container cmd.argv)) :
    Sends allowed (command s cmd) := by
  have hA := cumulative_asking allowed
  exact hA.bind (Cumulative.during _ (sends_run s _ hp he)) fun _ => hA.pure ()

theorem sends_perform (c : Context) (osd : UInt32) (step : Step) :
    Sends (step.Sent c.settings osd) (step.perform c osd) := by
  have hA := cumulative_asking (step.Sent c.settings osd)
  have hwait : Sends (Asks c.settings (· = osd)) (awaitRemovable c osd none) := by
    apply sends_awaitRemovable
    rfl
  cases step with
  | reweight =>
      exact hA.bind (hA.report _) fun _ =>
        sends_command (.inr .toolboxPods) fun pod container => .inl ⟨pod, container, rfl⟩
  | settleBefore =>
      exact hA.bind (hA.report _) fun _ =>
        Cumulative.during _ (hwait.mono fun _ => .inr)
  | scaleDown => exact hA.bind (hA.tell _) fun _ => Cumulative.during _ (sends_ask (.inl rfl))
  | confirmScale =>
      exact Cumulative.during _ (sends_awaitScale c _ _ _ (.inr (.deployment rfl)))
  | awaitDown =>
      refine hA.bind (hA.tell _) fun _ => hA.bind (Cumulative.during _ ?_) fun _ => hA.tell _
      exact (sends_awaitOsdDown c _).mono fun _ => .inr
  | settleAfter =>
      exact Cumulative.during _ (hwait.mono fun _ => .inr)
  | purge =>
      exact hA.bind (hA.report _) fun _ =>
        sends_command (.inr .toolboxPods) fun pod container => .inl ⟨pod, container, rfl⟩
  | cleanUp => exact Cumulative.during _ (sends_ask (.inl rfl))

/-! ## Steps that succeeded -/

section

variable {c : Context} {osd : UInt32} {seen : List Event}

/-- Data was told to move off the OSD, with exit code zero. -/
def Reweighted (osd : UInt32) (seen : List Event) : Prop :=
  ∃ output, output.code = 0 ∧ Ran (Command.reweight osd).argv (.ok output) seen

/-- The deployment of the OSD was asked for no pods, and that was granted. -/
def ScaledDown (c : Context) (osd : UInt32) (seen : List Event) : Prop :=
  ∃ t u v m, seen = [.told t m, .called u (scaleDownRequest c.settings osd),
    .answered v (scaleDownRequest c.settings osd) (.ok ())]

/-- A command of a step is announced, the pods are listed, and then it becomes of the command what
it may; the step succeeds if the command does. -/
theorem course_command {s : Settings} {cmd : Command} {text : String} {o : Option (Attempt Unit)}
    (h : Course (do Job.report text; command s cmd) seen o) :
    ∃ ready rest o', seen = ready ++ rest ∧
      Asking (fun r => r = .listPods s.space s.toolboxSelector) ready ∧
      Execution s cmd.argv rest o' ∧ (o = some (.ok ()) ↔ ∃ output, o' = some (.ok output)) := by
  have hA := cumulative_asking (fun r => r = .listPods s.space s.toolboxSelector)
  rcases (Job.course_bind ..).1 h with ⟨_, told, first, rfl, ht, hc⟩ | ⟨e, ht, _⟩ | ⟨ht, _⟩
  · have ht := hA.report _ _ _ ht
    rcases (Job.course_bind ..).1 hc with ⟨output, first, _, rfl, hr, rfl, rfl⟩ | ⟨e, hr, rfl⟩ |
      ⟨hr, rfl⟩
    · obtain ⟨listing, rest, rfl, hl, hx⟩ := course_run ((Job.course_during_ok ..).1 hr)
      exact ⟨told ++ listing, rest, _, by simp, hA.append ht hl, hx, fun _ => ⟨output, rfl⟩,
        fun _ => rfl⟩
    all_goals
      obtain ⟨o', hr, ho⟩ := (Job.course_during ..).1 hr
      obtain ⟨listing, rest, rfl, hl, hx⟩ := course_run hr
      refine ⟨told ++ listing, rest, o', by simp, hA.append ht hl, hx, nofun, ?_⟩
      rintro ⟨output, rfl⟩
      cases ho
  · cases ((Job.course_report ..).1 ht).2
  · cases ((Job.course_report ..).1 ht).2

theorem course_reweight_ok (h : Course (Step.reweight.perform c osd) seen (some (.ok ()))) :
    Reweighted osd seen := by
  obtain ⟨ready, rest, o', rfl, hl, hx, ho⟩ := course_command h
  obtain ⟨output, rfl⟩ := ho.1 rfl
  obtain ⟨hc, t, u, pod, container, rfl⟩ := hx.of_ok
  exact ⟨output, hc, ran_of_answered hl ..⟩

theorem course_settleBefore_ok
    (h : Course (Step.settleBefore.perform c osd) seen (some (.ok ()))) :
    Settled c osd (confirmations c.settings.safeConfirmations) seen := by
  obtain ⟨_, told, rest, rfl, _, h₁⟩ := (Job.course_bind_ok ..).1 h
  exact (course_awaitRemovable_ok ((Job.course_during_ok ..).1 h₁)).append told

theorem course_scaleDown_ok (h : Course (Step.scaleDown.perform c osd) seen (some (.ok ()))) :
    ScaledDown c osd seen := by
  obtain ⟨_, told, rest, rfl, ht, h₁⟩ := (Job.course_bind_ok ..).1 h
  obtain ⟨⟨t, rfl⟩, _⟩ := (Job.course_tell ..).1 ht
  obtain ⟨u, v, rfl⟩ := (Job.course_ask_ok ..).1 ((Job.course_during_ok ..).1 h₁)
  exact ⟨t, u, v, _, rfl⟩

theorem course_confirmScale_ok
    (h : Course (Step.confirmScale.perform c osd) seen (some (.ok ()))) :
    SeenAtScale c.settings.space (c.settings.osdDeployment osd) 0 seen :=
  course_awaitScale_ok ((Job.course_during_ok ..).1 h)

theorem course_awaitDown_ok (h : Course (Step.awaitDown.perform c osd) seen (some (.ok ()))) :
    SeenDown seen := by
  obtain ⟨_, told, rest, rfl, _, h₁⟩ := (Job.course_bind_ok ..).1 h
  obtain ⟨_, waited, last, rfl, hw, h₂⟩ := (Job.course_bind_ok ..).1 h₁
  have hq : Quiet last := (cumulative_asking _).tell _ _ _ h₂
  have hd := course_awaitOsdDown_ok ((Job.course_during_ok ..).1 hw)
  simpa using (hd.append_quiet hq).append told

theorem course_settleAfter_ok
    (h : Course (Step.settleAfter.perform c osd) seen (some (.ok ()))) :
    Settled c osd (confirmations c.settings.safeConfirmations) seen :=
  course_awaitRemovable_ok ((Job.course_during_ok ..).1 h)

end

end OsdMigration.Removal
