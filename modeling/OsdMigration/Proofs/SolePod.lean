import OsdMigration.Proofs.Budget
import OsdMigration.Proofs.Refusal
import OsdMigration.Proofs.Survey

set_option autoImplicit false

/-! # Commands reach the only pod of the toolbox

Everything that runs commands lists the pods of the toolbox before each of them, sends it to the
only pod there is, and ends where there is not one (`commands_reach_sole_pod`). The survey of a
migration runs no commands. It lists pods by the selector of the OSDs, and that may be the selector
of the toolbox, so the migration is looked at in its parts.
-/

namespace OsdMigration

open Cluster (Pod Request)
open Job (Always Course Sends)

/-! ## Running a command -/

theorem solePod_ok {pods : List Pod} {pod container : String}
    (h : Toolbox.solePod pods = .ok (pod, container)) :
    ∃ (p : Pod) (spec : Cluster.PodSpec) (k : Cluster.Container) (others : List Cluster.Container),
      pods = [p] ∧ pod = p.metadata.name.getD "" ∧ p.spec = some spec ∧
        spec.containers = k :: others ∧ container = k.name := by
  unfold Toolbox.solePod at h
  split at h
  · rename_i p
    simp only at h
    split at h
    · rename_i k hk
      cases h
      obtain ⟨spec, hspec, hhead⟩ := Option.bind_eq_some_iff.1 hk
      obtain ⟨others, hcontainers⟩ := List.head?_eq_some_iff.1 hhead
      exact ⟨p, spec, k, others, rfl, rfl, hspec, hcontainers, rfl⟩
    · cases h
  · cases h

/-- A listing that does not show a single pod is a failure that says what it showed. -/
theorem solePod_of_length {pods : List Pod} (h : pods.length ≠ 1) :
    Toolbox.solePod pods =
      .error (.toolboxPods pods.length (pods.filterMap fun p => p.metadata.name)) := by
  match pods with
  | [] => rfl
  | [_] => exact absurd rfl h
  | _ :: _ :: _ => rfl

/-- How a command is run once the pods are listed. -/
def Toolbox.runListed (s : Settings) (argv : List String) (pods : List Pod) :
    Job Cluster.CommandOutput := do
  let (pod, container) ← Job.ofAttempt (Toolbox.solePod pods)
  let answer ← Toolbox.cancellable (Request.commandLine argv)
    (.call (.exec s.space pod container argv) .pure)
  Job.ofAttempt (Toolbox.checked pod argv answer)

theorem Toolbox.run_eq (s : Settings) (argv : List String) :
    Toolbox.run s argv = (Job.ask (.listPods s.space s.toolboxSelector)).during
      "unable to find rook-ceph-tools pod" >>= Toolbox.runListed s argv := by
  unfold Toolbox.run Toolbox.runListed
  simp only [checked_eq]

/-- Once the pods are listed only commands are sent. -/
theorem sends_runListed (s : Settings) (argv : List String) (pods : List Pod) :
    Sends (fun r => IsCommand r = true) (Toolbox.runListed s argv pods) := by
  have hA := cumulative_asking (fun r => IsCommand r = true)
  refine hA.bind (hA.ofAttempt _) fun ⟨pod, container⟩ => hA.bind ?_ fun _ => hA.ofAttempt _
  exact hA.guarded ⟨0, none⟩ _ (Job.sends_ask rfl)

/-- Once the pods are listed nothing is seen but a command, which is sent to the first container of
the only pod. -/
theorem course_runListed {s : Settings} {argv : List String} {pods : List Pod} {seen : List Event}
    {o : Option (Attempt Cluster.CommandOutput)}
    (h : Course (Toolbox.runListed s argv pods) seen o) :
    seen = [] ∨ ∃ pod container t rest, Toolbox.solePod pods = .ok (pod, container) ∧
      seen = .called t (.exec s.space pod container argv) :: rest ∧
      ∀ t' r, .called t' r ∉ rest := by
  rcases (Job.course_bind ..).1 h with ⟨⟨pod, container⟩, _, rest, rfl, ⟨rfl, hsole⟩, h₁⟩ |
    ⟨f, ⟨rfl, _⟩, _⟩ | ⟨⟨rfl, _⟩, _⟩
  · have hsent : ∃ o', Course (Toolbox.cancellable (Request.commandLine argv)
        (.call (.exec s.space pod container argv) .pure)) rest o' := by
      rcases (Job.course_bind ..).1 h₁ with ⟨a, first, _, rfl, hx, rfl, _⟩ | ⟨f, hx, _⟩ | ⟨hx, _⟩
      · exact ⟨_, by rwa [List.append_nil]⟩
      · exact ⟨_, hx⟩
      · exact ⟨_, hx⟩
    obtain ⟨o', hx⟩ := hsent
    rcases course_cancellable hx with ⟨_, rfl, _⟩ | ⟨t, rfl, _⟩ | ⟨t, u, a, rfl, _⟩
    · exact .inl rfl
    · exact .inr ⟨pod, container, t, [], (Option.some.inj hsole).symm, rfl, by simp⟩
    · exact .inr ⟨pod, container, t, [_], (Option.some.inj hsole).symm, rfl, by simp⟩
  · exact .inl rfl
  · exact .inl rfl

/-- A command right after the listing that showed its pod. -/
theorem inSolePod_sent {s : Settings} {argv : List String} {p : Pod} {spec : Cluster.PodSpec}
    {k : Cluster.Container} {others : List Cluster.Container} {v u t : Nat} {rest : List Event}
    (hspec : p.spec = some spec) (hk : spec.containers = k :: others)
    (hrest : ∀ t' r, .called t' r ∉ rest) :
    InSolePod s (.called v (.listPods s.space s.toolboxSelector) ::
      .answered u (.listPods s.space s.toolboxSelector) (.ok [p]) ::
        .called t (.exec s.space (p.metadata.name.getD "") k.name argv) :: rest) := by
  intro front t' space pod container argv' back h
  match front with
  | [] => cases h
  | [_] => cases h
  | [e₁, e₂] =>
      cases h
      exact ⟨[], v, u, p, spec, k, others, rfl, rfl, rfl, hspec, hk, rfl⟩
  | e₁ :: e₂ :: e₃ :: front =>
      have hmem : .called t' (.exec space pod container argv') ∈ rest := by
        rw [(List.cons.inj (List.cons.inj (List.cons.inj h).2).2).2]
        simp
      exact absurd hmem (hrest _ _)

section

variable {σ : Type} (server : Server σ) (cancelAt : Option Nat)

/-- Running a command, whichever it is. -/
theorem sole_run (s : Settings) (argv : List String) :
    Job.Sole server cancelAt s (Toolbox.run s argv) where
  inPod seen o h := by
    have hlisting : Sends (fun r => IsCommand r = false)
        ((Job.ask (.listPods s.space s.toolboxSelector)).during
          "unable to find rook-ceph-tools pod") := Cumulative.during _ (Job.sends_ask rfl)
    rw [Toolbox.run_eq] at h
    rcases (Job.course_bind ..).1 h with ⟨pods, listing, rest, rfl, hl, h₁⟩ | ⟨f, hl, _⟩ | ⟨hl, _⟩
    · obtain ⟨v, u, rfl⟩ := (Job.course_ask_ok ..).1 ((Job.course_during_ok ..).1 hl)
      -- a command is sent only where the listing had one pod with a container
      rcases course_runListed h₁ with rfl | ⟨pod, container, t, rest, hsole, rfl, hrest⟩
      · exact inSolePod_of_no_command (hlisting _ _ hl)
      · obtain ⟨p, spec, k, others, rfl, rfl, hspec, hk, rfl⟩ := solePod_ok hsole
        exact inSolePod_sent hspec hk hrest
    · exact inSolePod_of_no_command (hlisting _ _ hl)
    · exact inSolePod_of_no_command (hlisting _ _ hl)
  refuses := by
    rw [Toolbox.run_eq]
    refine Procedure.refuses_listing (fun pods hpods => ?_) fun a => ?_
    · have hrefused : (Toolbox.runListed s argv pods).attempt = .pure (.error
          (.toolboxPods pods.length (pods.filterMap fun p => p.metadata.name))) := by
        rw [Toolbox.runListed, solePod_of_length hpods]
        rfl
      have hrefusal : Refusal pods
        (.toolboxPods pods.length (pods.filterMap fun p => p.metadata.name)) := rfl
      exact ⟨_, _, hrefused, rfl, hrefusal⟩
    · cases a with
      | error f => exact Procedure.refuses_pure _
      | ok pods =>
          refine Procedure.refuses_of_unlisted fun seen o hc => ?_
          refine (sends_runListed s argv pods seen o hc).mono ?_
          rintro r hr rfl
          cases hr

/-! ## Everything that runs commands -/

variable (c : Context)

theorem sole_ensureReady : Job.Sole server cancelAt c.settings (Toolbox.ensureReady c) :=
  (sends_ensureReady c).sole fun _ => Upkeep.aside

theorem sole_fetchStatus : Job.Sole server cancelAt c.settings (Monitor.fetchStatus c) :=
  ((sole_ensureReady server cancelAt c).during _).bind fun _ =>
    ((sole_run server cancelAt c.settings _).during _).bind fun _ =>
      (Job.sole_ofAttempt _).during _

theorem sole_health : Job.Sole server cancelAt c.settings (Monitor.health c) :=
  (sole_fetchStatus server cancelAt c).bind fun _ => Job.sole_pure _

theorem sole_askRemovability (osd : UInt32) :
    Job.Sole server cancelAt c.settings (Monitor.askRemovability c osd) := by
  refine Job.Sole.during _ (Job.Sole.map (sole_run server cancelAt c.settings _) fun f pods hf => ?_)
  -- it is not the failure of a command, so it is not read as an answer
  refine ⟨f, ?_, hf⟩
  cases f with
  | exitCode code pod command stderr => cases hf
  | _ => rfl

theorem sole_removability (osd : UInt32) :
    Job.Sole server cancelAt c.settings (Monitor.removability c osd) :=
  (sole_askRemovability server cancelAt c osd).bind fun _ => Job.sole_pure _

theorem sole_awaitHealth (timeout : Option Nat) :
    Job.Sole server cancelAt c.settings (awaitHealth c timeout) := by
  refine (Job.sole_start _ _).bind fun p => (Job.sole_report _).bind fun _ =>
    Job.Sole.wait p _ (fun w => ?_) _ _
  refine Job.Sole.observe (sole_fetchStatus server cancelAt c) (fun _ => Job.sole_ofAttempt _)
    fun f hf => ?_
  simp only [HealthWait.observe, Budget.spend_of_not_retryable hf]
  rfl

theorem sole_awaitOsdDown (timeout : Option Nat) :
    Job.Sole server cancelAt c.settings (awaitOsdDown c timeout) := by
  refine (Job.sole_start _ _).bind fun p => Job.Sole.wait p _ (fun w => ?_) _ _
  refine Job.Sole.observe (sole_fetchStatus server cancelAt c) (fun _ => Job.sole_ofAttempt _)
    fun f hf => ?_
  simp only [DownWait.observe, Budget.spend_of_not_retryable hf]
  rfl

theorem sole_awaitRemovable (osd : UInt32) (timeout : Option Nat) :
    Job.Sole server cancelAt c.settings (awaitRemovable c osd timeout) := by
  refine (Job.sole_start _ _).bind fun p => Job.Sole.wait p _ (fun w => ?_) _ _
  refine Job.Sole.observe (sole_fetchStatus server cancelAt c) (fun report => ?_) fun f hf => ?_
  · cases report with
    | error f => exact Job.sole_ofAttempt _
    | ok status =>
        simp only
        split
        · refine Job.Sole.observe (sole_askRemovability server cancelAt c osd)
            (fun _ => Job.sole_ofAttempt _) fun f hf => ?_
          simp only [RemovalWait.observe, Budget.spend_of_not_retryable hf]
          rfl
        · exact Job.sole_ofAttempt _
  · simp only [RemovalWait.observe, Budget.spend_of_not_retryable hf]
    rfl

theorem sole_awaitScale (name : String) (scale : Int) (timeout : Nat) :
    Job.Sole server cancelAt c.settings (awaitScale c name scale timeout) := by
  have hsends : Sends (· = .getDeployment c.settings.space name) (awaitScale c name scale timeout) :=
    sends_awaitScale c name scale timeout rfl
  refine hsends.sole ?_
  rintro _ rfl
  exact ⟨rfl, nofun⟩

theorem sole_command (cmd : Ceph.Command) :
    Job.Sole server cancelAt c.settings (Removal.command c.settings cmd) :=
  ((sole_run server cancelAt c.settings _).during _).bind fun _ => Job.sole_pure ()

/-- A request that is not a listing nor a command may be sent. -/
theorem sole_ask {r : Request} (hr : Aside c.settings r) :
    Job.Sole server cancelAt c.settings (Job.ask r) := by
  have hsends : Sends (Aside c.settings) (Job.ask r) := Job.sends_ask hr
  exact hsends.sole fun _ => id

theorem sole_perform (osd : UInt32) (step : Removal.Step) :
    Job.Sole server cancelAt c.settings (step.perform c osd) := by
  cases step with
  | reweight | purge => exact (Job.sole_report _).bind fun _ => sole_command server cancelAt c _
  | settleBefore =>
      exact (Job.sole_report _).bind fun _ => (sole_awaitRemovable server cancelAt c osd _).during _
  | settleAfter => exact (sole_awaitRemovable server cancelAt c osd _).during _
  | scaleDown =>
      have haside : Aside c.settings (Removal.scaleDownRequest c.settings osd) := ⟨rfl, nofun⟩
      exact (Job.sole_tell _).bind fun _ => (sole_ask server cancelAt c haside).during _
  | confirmScale => exact (sole_awaitScale server cancelAt c _ _ _).during _
  | awaitDown =>
      exact (Job.sole_tell _).bind fun _ =>
        ((sole_awaitOsdDown server cancelAt c _).during _).bind fun _ => Job.sole_tell _
  | cleanUp =>
      have haside : Aside c.settings
        (.deleteDeployment c.settings.space (c.settings.osdDeployment osd)) := ⟨rfl, nofun⟩
      exact (sole_ask server cancelAt c haside).during _

theorem sole_removeOsd (osd : UInt32) :
    Job.Sole server cancelAt c.settings (removeOsd c osd) :=
  (Job.Sole.forM _ fun step => sole_perform server cancelAt c osd step).bind fun _ =>
    Job.sole_report _

theorem sole_prepare : Job.Sole server cancelAt c.settings (Migration.prepare c) :=
  (Job.sole_report _).bind fun _ => ((sole_ensureReady server cancelAt c).during _).bind fun _ =>
    (sole_awaitHealth server cancelAt c _).during _

theorem sole_conclude (found : Option (List UInt32)) :
    Job.Sole server cancelAt c.settings (Migration.conclude c found) := by
  cases found with
  | none => exact Job.sole_pure _
  | some osds =>
      refine Job.Sole.bind ?_ fun _ => (Job.sole_report _).bind fun _ => Job.sole_pure _
      exact Job.Sole.forM _ fun osd => (sole_removeOsd server cancelAt c osd).during _

end

/-! ## Every run -/

section

variable {σ α : Type} (server : Server σ) (cancelAt : Option Nat)

/-- Among what is seen of a run, from its beginning or from some point on, a listing of the
toolbox's pods that shows none or several is the end: nothing is seen after it, it is seen at the
instant at which the run ends, and the result is the failure that says what it showed. -/
def EndsRefused (s : Settings) (run : Ending (Attempt α) × Timeline σ) (seen : List Event) : Prop :=
  ∀ front u pods back,
    seen = front ++ .answered u (.listPods s.space s.toolboxSelector) (.ok pods) :: back →
    pods.length ≠ 1 →
      back = [] ∧ run.2.time = u ∧ ∃ f, run.1 = .done (.error f) ∧
        f.root = .toolboxPods pods.length (pods.filterMap fun p => p.metadata.name)

/-- All runs of a job send commands to the only pod of the toolbox, and end where there is not one. -/
structure ReachesSolePod (s : Settings) (job : Job α) : Prop where
  inPod : ∀ now st, InSolePod s (job.attempt.watch server cancelAt now st).2
  refused : ∀ now st, EndsRefused s (job.attempt.run server cancelAt ⟨now, st, []⟩)
    (job.attempt.watch server cancelAt now st).2

variable {server} {cancelAt} {s : Settings}

theorem RefusedBy.endsRefused {run : Ending (Attempt α) × Timeline σ} {added : List Event}
    (h : RefusedBy s (fun a f => a = .error f) run added) : EndsRefused s run added.reverse := by
  intro front u pods back hs hpods
  have hadded := congrArg List.reverse hs
  simp only [List.reverse_reverse, List.reverse_append, List.reverse_cons, List.append_assoc,
    List.singleton_append] at hadded
  obtain ⟨hlast, htime, b, f, hb, rfl, hf⟩ := h _ u pods _ hadded hpods
  exact ⟨List.reverse_eq_nil_iff.1 hlast, htime, f, hb, hf⟩

/-- What a run of a job adds, with the earliest first, ends where it is refused. -/
theorem Job.Sole.run {job : Job α} (h : Job.Sole server cancelAt s job) (t : Timeline σ) :
    ∃ seen, (job.attempt.run server cancelAt t).2.seen = seen.reverse ++ t.seen ∧
      EndsRefused s (job.attempt.run server cancelAt t) seen := by
  obtain ⟨added, hs, hadded⟩ := h.refuses none 0 t
  exact ⟨added.reverse, by rwa [List.reverse_reverse], hadded.endsRefused⟩

theorem Job.Sole.reaches {job : Job α} (h : Job.Sole server cancelAt s job) :
    ReachesSolePod server cancelAt s job where
  inPod now st := h.inPod _ _ (Procedure.course_watch server cancelAt job.attempt now st)
  refused now st := by
    obtain ⟨seen, hs, hseen⟩ := h.run ⟨now, st, []⟩
    have hwatch : (job.attempt.watch server cancelAt now st).2 = seen := by
      change ((job.attempt.run server cancelAt ⟨now, st, []⟩).2.seen).reverse = _
      rw [hs, List.append_nil, List.reverse_reverse]
    rw [hwatch]
    exact hseen

end

section

variable {σ : Type} (server : Server σ) (cancelAt : Option Nat) (c : Context)

/-- What is seen of a migration. While it prepares and while it removes OSDs, a listing of the
toolbox's pods that shows none or several is the end; in between it surveys, which takes no
commands. -/
inductive EndsRefusedInParts (s : Settings) (run : Ending (Attempt Migration.Outcome) × Timeline σ) :
    List Event → Prop
  | preparing {gate : List Event} (refused : EndsRefused s run gate) :
      EndsRefusedInParts s run gate
  | prepared {gate surveyed removals : List Event}
      (single : ∀ u pods, .answered u (.listPods s.space s.toolboxSelector) (.ok pods) ∈ gate →
        pods.length = 1)
      (surveys : Asking (Surveys s) surveyed) (refused : EndsRefused s run removals) :
      EndsRefusedInParts s run (gate ++ surveyed ++ removals)

/-- Where OSDs have another label than the toolbox, the survey lists none of its pods. -/
theorem EndsRefusedInParts.endsRefused {s : Settings}
    {run : Ending (Attempt Migration.Outcome) × Timeline σ} {seen : List Event}
    (h : EndsRefusedInParts s run seen) (hs : s.osdSelector ≠ s.toolboxSelector) :
    EndsRefused s run seen := by
  cases h with
  | preparing refused => exact refused
  | @prepared gate surveyed removals single surveys refused =>
      intro front u pods back hseen hpods
      rcases Removal.append_eq_append_cons hseen with ⟨rest, hfirst, _⟩ | ⟨rest, rfl, hlast⟩
      · -- neither before nor during the survey is there such a listing
        have hmem : .answered u (.listPods s.space s.toolboxSelector) (.ok pods) ∈
            gate ++ surveyed := by
          rw [hfirst]
          simp
        rcases List.mem_append.1 hmem with hg | hm
        · exact absurd (single u pods hg) hpods
        · exfalso
          have hsurvey := surveys _ hm _ rfl
          generalize hr : Request.listPods s.space s.toolboxSelector = r at hsurvey
          cases hsurvey with
          | looks h =>
              cases h with
              | osdPods =>
                  injection hr with _ hselector
                  exact hs hselector.symm
              | nodes => cases hr
          | reshapes h => cases h <;> cases hr
          | restartOperator => cases hr
      · exact refused rest u pods back hlast hpods

/-- A listing that was gone on from showed a single pod. -/
theorem EndsRefused.single {α : Type} {s : Settings} {a : α} {t : Timeline σ} {seen : List Event}
    (h : EndsRefused s (.done (.ok a), t) seen) (u : Nat) (pods : List Pod)
    (hm : .answered u (.listPods s.space s.toolboxSelector) (.ok pods) ∈ seen) :
    pods.length = 1 := by
  refine Classical.byContradiction fun hpods => ?_
  obtain ⟨front, back, hs⟩ := List.append_of_mem hm
  obtain ⟨_, _, f, hf, _⟩ := h front u pods back hs hpods
  cases hf

/-- A failure that is passed on. -/
theorem EndsRefused.passed_on {α β : Type} {s : Settings} {run : Ending (Attempt α) × Timeline σ}
    {run' : Ending (Attempt β) × Timeline σ} {seen : List Event} (h : EndsRefused s run seen)
    (ht : run'.2.time = run.2.time)
    (hf : ∀ f, run.1 = .done (.error f) → run'.1 = .done (.error f)) :
    EndsRefused s run' seen := by
  intro front u pods back hs hpods
  obtain ⟨hback, htime, f, hdone, hroot⟩ := h front u pods back hs hpods
  exact ⟨hback, ht.trans htime, f, hf f hdone, hroot⟩

/-- A run of one job after another goes past the first, or ends where that does and as it does. -/
theorem EndsRefused.bind {α β : Type} {s : Settings} {job : Job α} (f : α → Job β) {t : Timeline σ}
    {seen : List Event} (h : EndsRefused s (job.attempt.run server cancelAt t) seen) :
    (∃ a u, job.attempt.run server cancelAt t = (.done (.ok a), u)) ∨
      ((job >>= f).attempt.run server cancelAt t).2 = (job.attempt.run server cancelAt t).2 ∧
        EndsRefused s ((job >>= f).attempt.run server cancelAt t) seen := by
  rcases hr : job.attempt.run server cancelAt t with ⟨(e | a) | ⟨cause, d⟩ | _ | _, u⟩ <;>
    rw [hr] at h
  · rw [Job.run_bind_of_error hr]
    exact .inr ⟨rfl, h.passed_on rfl fun _ he => by cases he; rfl⟩
  · exact .inl ⟨a, u, rfl⟩
  all_goals
    rw [Job.run_bind, hr]
    exact .inr ⟨rfl, h.passed_on rfl nofun⟩

theorem migration_endsRefused (now : Nat) (st : σ) :
    EndsRefusedInParts c.settings ((migrate c).attempt.run server cancelAt ⟨now, st, []⟩)
      ((migrate c).attempt.watch server cancelAt now st).2 := by
  change EndsRefusedInParts c.settings _
    ((migrate c).attempt.run server cancelAt ⟨now, st, []⟩).2.seen.reverse
  obtain ⟨gate, hgate, hrefused⟩ :=
    (sole_prepare server cancelAt c).run ⟨now, st, []⟩
  rw [List.append_nil] at hgate
  rw [migrate_parts]
  rcases hrefused.bind server cancelAt fun _ => Migration.survey c >>= Migration.conclude c with
    ⟨_, t, hp⟩ | ⟨hsame, hrefused⟩
  -- the survey runs no command, so a refusal is one of the preparation or of the removals
  · rw [hp] at hgate hrefused
    have hsingle := fun u pods => hrefused.single u pods
    rw [Job.run_bind_of_ok hp]
    obtain ⟨surveyed, hsurveyed, hc⟩ := Job.course_run server cancelAt (Migration.survey c) t
    have hsurveys := sends_survey c _ _ hc
    rcases Job.run_bind_cases server cancelAt (Migration.survey c) (Migration.conclude c) t with
      ⟨found, u, hs⟩ | ⟨hsame, _⟩
    · obtain ⟨removals, hremovals, hlast⟩ :=
        (sole_conclude server cancelAt c found).run u
      rw [hs] at hsurveyed
      rw [Job.run_bind_of_ok hs, hremovals, hsurveyed, hgate]
      simpa using EndsRefusedInParts.prepared hsingle hsurveys hlast
    · rw [hsame, hsurveyed, hgate]
      have hnothing : EndsRefused c.settings ((Migration.survey c >>= Migration.conclude c).attempt.run
          server cancelAt t) [] := by
        intro front u pods back h
        cases front <;> cases h
      simpa using EndsRefusedInParts.prepared hsingle hsurveys hnothing
  · rw [hsame, hgate, List.reverse_reverse]
    exact .preparing hrefused

theorem inSolePod_migrate (now : Nat) (st : σ) :
    InSolePod c.settings ((migrate c).attempt.watch server cancelAt now st).2 := by
  have hP := cumulative_inSolePod c.settings
  have halways : Always (InSolePod c.settings) (migrate c) := by
    rw [migrate_parts]
    refine hP.bind (sole_prepare server cancelAt c).inPod fun _ => hP.bind ?_ fun found =>
      (sole_conclude server cancelAt c found).inPod
    exact Always.mono (sends_survey c) fun _ h =>
      inSolePod_of_no_command (h.mono fun _ => Surveys.not_command)
  exact halways _ _ (Procedure.course_watch server cancelAt (migrate c).attempt now st)

/-- No run of a job sends a command. -/
def RunsNoCommand {α : Type} (job : Job α) : Prop :=
  ∀ now st, Asking (fun r => IsCommand r = false) (job.attempt.watch server cancelAt now st).2

variable {server} {cancelAt} in
theorem Job.Sends.runsNoCommand {α : Type} {allowed : Request → Prop} {job : Job α}
    (h : Sends allowed job) (hn : ∀ r, allowed r → IsCommand r = false) :
    RunsNoCommand server cancelAt job := fun now st =>
  Asking.mono (h _ _ (Procedure.course_watch server cancelAt job.attempt now st)) hn

theorem looks_hasEnoughBlockHosts :
    Sends (Looks c.settings) (hasEnoughBlockHosts c.settings) := by
  have hA := cumulative_asking (Looks c.settings)
  refine hA.bind ?_ fun _ => hA.bind (Cumulative.during _ (looks_countHostsNow c)) fun _ => hA.pure _
  exact hA.bind (hA.bind (Cumulative.during _ (Job.sends_ask .nodes)) fun _ => hA.pure _) fun _ =>
    hA.pure _

theorem Looks.not_command {s : Settings} {r : Request} (h : Looks s r) : IsCommand r = false :=
  (Surveys.looks h).not_command

/-- Commands reach the only pod of the toolbox, whatever is done. -/
structure CommandsReachSolePod : Prop where
  ensureReady : ReachesSolePod server cancelAt c.settings (Toolbox.ensureReady c)
  run : ∀ argv, ReachesSolePod server cancelAt c.settings (Toolbox.run c.settings argv)
  fetchStatus : ReachesSolePod server cancelAt c.settings (Monitor.fetchStatus c)
  health : ReachesSolePod server cancelAt c.settings (Monitor.health c)
  removability : ∀ osd, ReachesSolePod server cancelAt c.settings (Monitor.removability c osd)
  awaitHealth : ∀ timeout, ReachesSolePod server cancelAt c.settings (awaitHealth c timeout)
  awaitRemovable : ∀ osd timeout,
    ReachesSolePod server cancelAt c.settings (awaitRemovable c osd timeout)
  awaitOsdDown : ∀ timeout, ReachesSolePod server cancelAt c.settings (awaitOsdDown c timeout)
  awaitScale : ∀ name scale timeout,
    ReachesSolePod server cancelAt c.settings (awaitScale c name scale timeout)
  removal : ∀ osd, ReachesSolePod server cancelAt c.settings (removeOsd c osd)
  /-- A migration as a whole, -/
  migration : ∀ now st, InSolePod c.settings ((migrate c).attempt.watch server cancelAt now st).2
  /-- in its parts, -/
  migrationParts : ∀ now st,
    EndsRefusedInParts c.settings ((migrate c).attempt.run server cancelAt ⟨now, st, []⟩)
      ((migrate c).attempt.watch server cancelAt now st).2
  /-- and as a whole again, if the selector of the OSDs is not that of the toolbox. -/
  migrationApart : c.settings.osdSelector ≠ c.settings.toolboxSelector →
    ReachesSolePod server cancelAt c.settings (migrate c)
  /-- Everything else is done without commands. -/
  inventory : RunsNoCommand server cancelAt (Osd.inventory c.settings)
  enableBlock : RunsNoCommand server cancelAt (Provisioning.enableBlock c.settings)
  nudgeOperator : RunsNoCommand server cancelAt (Provisioning.nudgeOperator c.settings)
  enoughBlockHosts : RunsNoCommand server cancelAt (hasEnoughBlockHosts c.settings)
  awaitBlockHosts : RunsNoCommand server cancelAt (awaitBlockHosts c)

/-- Every command is sent to the only pod of the toolbox that was listed just before, and a listing
that shows none or several ends what it was made for, however the cluster behaves and whenever the
user cancels. -/
theorem commands_reach_sole_pod : CommandsReachSolePod server cancelAt c where
  ensureReady := (sole_ensureReady server cancelAt c).reaches
  run argv := (sole_run server cancelAt c.settings argv).reaches
  fetchStatus := (sole_fetchStatus server cancelAt c).reaches
  health := (sole_health server cancelAt c).reaches
  removability osd := (sole_removability server cancelAt c osd).reaches
  awaitHealth timeout := (sole_awaitHealth server cancelAt c timeout).reaches
  awaitRemovable osd timeout := (sole_awaitRemovable server cancelAt c osd timeout).reaches
  awaitOsdDown timeout := (sole_awaitOsdDown server cancelAt c timeout).reaches
  awaitScale name scale timeout := (sole_awaitScale server cancelAt c name scale timeout).reaches
  removal osd := (sole_removeOsd server cancelAt c osd).reaches
  migration := inSolePod_migrate server cancelAt c
  migrationParts := migration_endsRefused server cancelAt c
  migrationApart hs :=
    ⟨inSolePod_migrate server cancelAt c,
      fun now st => (migration_endsRefused server cancelAt c now st).endsRefused hs⟩
  inventory := Job.Sends.runsNoCommand (looks_inventory c) fun _ => Looks.not_command
  enableBlock := Job.Sends.runsNoCommand (surveys_enableBlock c) fun _ => Surveys.not_command
  nudgeOperator := Job.Sends.runsNoCommand (surveys_nudgeOperator c) fun _ => Surveys.not_command
  enoughBlockHosts :=
    Job.Sends.runsNoCommand (looks_hasEnoughBlockHosts c) fun _ => Looks.not_command
  awaitBlockHosts := Job.Sends.runsNoCommand (looks_awaitBlockHosts c) fun _ => Looks.not_command

end

end OsdMigration
