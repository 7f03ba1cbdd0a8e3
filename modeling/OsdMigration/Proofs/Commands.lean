import OsdMigration.Proofs.Requests

set_option autoImplicit false

/-! # Commands and what they say

What a part of a run asked of Ceph is told by its commands alone: everything else is listings and
the upkeep of the toolbox. A report (`Reported`) and an answer about an OSD (`SaidSafe`) are each
one command, with no other beside it.
-/

namespace OsdMigration

open Ceph (Command Removability Status)
open Cluster (CommandOutput Request)
open Job (Course Sends)

/-- Whether a request is a command. -/
def IsCommand : Request → Bool
  | .exec .. => true
  | _ => false

/-- What is seen of commands. -/
def commands (seen : List Event) : List Event := seen.filter fun e => e.request?.any IsCommand

@[simp] theorem commands_nil : commands [] = [] := rfl

@[simp] theorem commands_append (a b : List Event) :
    commands (a ++ b) = commands a ++ commands b := List.filter_append ..

/-- Where no commands are allowed none is seen. -/
theorem commands_eq_nil {allowed : Request → Prop} {seen : List Event} (h : Asking allowed seen)
    (hn : ∀ r, allowed r → IsCommand r = false) : commands seen = [] := by
  refine List.filter_eq_nil_iff.2 fun e he hc => ?_
  obtain ⟨r, hr, hc⟩ := (Option.any_eq_true ..).1 hc
  rw [hn r (h e he r hr)] at hc
  exact Bool.noConfusion hc

/-- Keeping the toolbox up takes no commands. -/
theorem Upkeep.not_command {s : Settings} {r : Request} (h : Upkeep s r) : IsCommand r = false := by
  cases h <;> rfl

/-- One command was run and no other: its request and its outcome. -/
def Ran (argv : List String) (outcome : Attempt CommandOutput) (seen : List Event) : Prop :=
  ∃ t u space pod container,
    commands seen = [.called t (.exec space pod container argv),
      .answered u (.exec space pod container argv) outcome]

theorem Ran.append {argv : List String} {outcome : Attempt CommandOutput} {seen : List Event}
    (h : Ran argv outcome seen) {before after : List Event} (hb : commands before = [])
    (ha : commands after = []) : Ran argv outcome (before ++ seen ++ after) := by
  obtain ⟨t, u, space, pod, container, h⟩ := h
  exact ⟨t, u, space, pod, container, by simp [hb, ha, h]⟩

/-! ## Running a command -/

/-- The result of a command with an outcome: an exit code other than zero is a failure. -/
def Toolbox.checked (pod : String) (argv : List String) :
    Attempt CommandOutput → Attempt CommandOutput
  | .ok output =>
    if output.code = 0 then .ok output
    else .error (.exitCode output.code pod (Request.commandLine argv) output.stderr)
  | .error f => .error f

/-- What `Toolbox.run` does with an outcome. -/
theorem checked_eq (pod : String) (argv : List String) (outcome : Attempt CommandOutput) :
    (do
      let output ← Job.ofAttempt outcome
      if output.code = 0 then pure output
      else Job.fail (.exitCode output.code pod (Request.commandLine argv) output.stderr)) =
        Job.ofAttempt (Toolbox.checked pod argv outcome) := by
  cases outcome with
  | error f => rfl
  | ok output =>
      change (if output.code = 0 then (pure output : Job CommandOutput) else _) = _
      simp only [Toolbox.checked]
      split
      · rfl
      · rfl

/-- No result, or a failure that is not itself an exit code, whatever it may annotate. -/
def Unfinished (o : Option (Attempt CommandOutput)) : Prop :=
  ∀ a, o = some a → ∃ f, a = .error f ∧ ∀ code pod line stderr, f ≠ .exitCode code pod line stderr

/-- What can become of a command: it is not sent, or not answered, or it has an outcome. -/
inductive Execution (s : Settings) (argv : List String) :
    List Event → Option (Attempt CommandOutput) → Prop
  | unsent {o : Option (Attempt CommandOutput)} (h : Unfinished o) : Execution s argv [] o
  | unanswered {t : Nat} {pod container : String} {o : Option (Attempt CommandOutput)}
      (h : Unfinished o) : Execution s argv [.called t (.exec s.space pod container argv)] o
  | answered {t u : Nat} {pod container : String} (outcome : Attempt CommandOutput) :
      Execution s argv [.called t (.exec s.space pod container argv),
          .answered u (.exec s.space pod container argv) outcome]
        (some (Toolbox.checked pod argv outcome))

theorem unfinished_none : Unfinished none := nofun

theorem unfinished_abandoned (line : String) (i : Interruption) :
    Unfinished (some (.error (Toolbox.abandoned line i))) := by
  rintro _ ⟨⟩
  cases i <;> exact ⟨_, rfl, nofun⟩

theorem unfinished_during (step : String) (f : Failure) :
    Unfinished (some (.error (.during step f))) := by
  rintro _ ⟨⟩
  exact ⟨_, rfl, nofun⟩

theorem unfinished_solePod {pods : List Cluster.Pod} {f : Failure}
    (h : Toolbox.solePod pods = .error f) : Unfinished (some (.error f)) := by
  unfold Toolbox.solePod at h
  rintro _ ⟨⟩
  split at h
  · simp only at h
    split at h
    · cases h
    · cases h
      exact ⟨_, rfl, nofun⟩
  · cases h
    exact ⟨_, rfl, nofun⟩

/-- A request that the user can cancel is not sent, or not answered, or answered. -/
theorem course_cancellable {line : String} {r : Request} {seen : List Event}
    {o : Option (Attempt (Attempt r.Reply))}
    (h : Course (Toolbox.cancellable line (.call r .pure)) seen o) :
    (∃ i, seen = [] ∧ o = some (.error (Toolbox.abandoned line i))) ∨
      (∃ t, seen = [.called t r] ∧
        (o = none ∨ ∃ i, o = some (.error (Toolbox.abandoned line i)))) ∨
      ∃ t u a, seen = [.called t r, .answered u r a] ∧ o = some (.ok a) := by
  have called : (Procedure.call r .pure).Course seen none → ∃ t, seen = [.called t r] := by
    rintro (⟨t, rfl, _⟩ | ⟨_, _, _, _, _, _, ho⟩)
    · exact ⟨t, rfl⟩
    · cases ho
  rcases (Job.course_guarded ⟨0, none⟩ (Toolbox.abandoned line) (.call r .pure) seen o).1 h with
    ⟨i, rfl, ho⟩ | ⟨a, hw, ho⟩ | ⟨i, hw, ho⟩ | ⟨hw, ho⟩
  · exact .inl ⟨i, rfl, ho⟩
  · rcases hw with ⟨_, _, ha⟩ | ⟨t, u, a, _, rfl, rfl, ha⟩
    · cases ha
    · cases ha
      exact .inr (.inr ⟨t, u, _, rfl, ho⟩)
  · obtain ⟨t, rfl⟩ := called hw
    exact .inr (.inl ⟨t, rfl, .inr ⟨i, ho⟩⟩)
  · obtain ⟨t, rfl⟩ := called hw
    exact .inr (.inl ⟨t, rfl, .inl ho⟩)

/-- The pod is known, and the command is run in it. -/
theorem course_exec {s : Settings} {argv : List String} (pod container : String)
    {seen : List Event} {o : Option (Attempt CommandOutput)}
    (h : Course (do
      let answer ← Toolbox.cancellable (Request.commandLine argv)
        (.call (.exec s.space pod container argv) .pure)
      Job.ofAttempt (Toolbox.checked pod argv answer)) seen o) : Execution s argv seen o := by
  -- an outcome, a failure of the guard around the request, or nothing at all
  rcases (Job.course_bind ..).1 h with ⟨outcome, first, rest, rfl, hx, rfl, ho⟩ | ⟨f, hx, rfl⟩ |
    ⟨hx, rfl⟩
  · rcases course_cancellable hx with ⟨_, _, ha⟩ | ⟨_, _, ha | ⟨_, ha⟩⟩ | ⟨t, u, a, rfl, ha⟩
    · cases ha
    · cases ha
    · cases ha
    · cases ha
      rw [ho]
      exact .answered outcome
  · rcases course_cancellable hx with ⟨i, rfl, ha⟩ | ⟨t, rfl, ha | ⟨i, ha⟩⟩ | ⟨t, u, a, _, ha⟩
    · cases ha
      exact .unsent (unfinished_abandoned _ i)
    · cases ha
    · cases ha
      exact .unanswered (unfinished_abandoned _ i)
    · cases ha
  · rcases course_cancellable hx with ⟨i, _, ha⟩ | ⟨t, rfl, _⟩ | ⟨t, u, a, _, ha⟩
    · cases ha
    · exact .unanswered unfinished_none
    · cases ha

/-- Running a command is a listing of the pods, and then what becomes of the command. -/
theorem course_run {s : Settings} {argv : List String} {seen : List Event}
    {o : Option (Attempt CommandOutput)} (h : Course (Toolbox.run s argv) seen o) :
    ∃ listing rest, seen = listing ++ rest ∧
      Asking (fun r => r = .listPods s.space s.toolboxSelector) listing ∧
      Execution s argv rest o := by
  have hl : Sends (fun r => r = .listPods s.space s.toolboxSelector)
      ((Job.ask (.listPods s.space s.toolboxSelector)).during
        "unable to find rook-ceph-tools pod") := Cumulative.during _ (Job.sends_ask rfl)
  rcases (Job.course_bind ..).1 h with ⟨pods, listing, rest, rfl, hp, h₁⟩ | ⟨f, hp, ho⟩ | ⟨hp, ho⟩
  · refine ⟨listing, rest, rfl, hl _ _ hp, ?_⟩
    rcases (Job.course_bind ..).1 h₁ with ⟨⟨pod, container⟩, _, rest, rfl, ⟨rfl, _⟩, h₂⟩ |
      ⟨f, ⟨rfl, hf⟩, ho⟩ | ⟨⟨_, hf⟩, _⟩
    · apply course_exec pod container
      simp only [← checked_eq]
      exact h₂
    · rw [ho]
      exact .unsent (unfinished_solePod (Option.some.inj hf).symm)
    · cases hf
  · refine ⟨seen, [], by simp, hl _ _ hp, .unsent ?_⟩
    obtain ⟨_ | e | _, _, hf⟩ := (Job.course_during ..).1 hp
    · cases hf
    · cases hf
      rw [ho]
      exact unfinished_during _ e
    · cases hf
  · refine ⟨seen, [], by simp, hl _ _ hp, .unsent ?_⟩
    rw [ho]
    exact unfinished_none

theorem commands_listing {s : Settings} {seen : List Event}
    (h : Asking (fun r => r = .listPods s.space s.toolboxSelector) seen) : commands seen = [] :=
  commands_eq_nil h (by rintro r rfl; rfl)

/-- A command that is answered after a listing was run, and no other. -/
theorem ran_of_answered {s : Settings} {argv : List String} {listing : List Event}
    (h : Asking (fun r => r = .listPods s.space s.toolboxSelector) listing) (t u : Nat)
    (pod container : String) (outcome : Attempt CommandOutput) :
    Ran argv outcome (listing ++ [.called t (.exec s.space pod container argv),
      .answered u (.exec s.space pod container argv) outcome]) := by
  refine ⟨t, u, s.space, pod, container, ?_⟩
  rw [commands_append, commands_listing h]
  rfl

/-- A command succeeds only with an answer and exit code zero. -/
theorem Execution.of_ok {s : Settings} {argv : List String} {seen : List Event}
    {output : CommandOutput} (h : Execution s argv seen (some (.ok output))) :
    output.code = 0 ∧ ∃ t u pod container, seen = [.called t (.exec s.space pod container argv),
      .answered u (.exec s.space pod container argv) (.ok output)] := by
  generalize ho : some (Except.ok output) = o at h
  cases h with
  | unsent h =>
      obtain ⟨f, hf, _⟩ := h _ ho.symm
      cases hf
  | unanswered h =>
      obtain ⟨f, hf, _⟩ := h _ ho.symm
      cases hf
  | @answered t u pod container outcome =>
      cases outcome with
      | error f => cases ho
      | ok out =>
          simp only [Toolbox.checked] at ho
          split at ho
          · cases ho
            exact ⟨‹_›, t, u, pod, container, rfl⟩
          · cases ho

/-- A command that was answered ends with what is made of its outcome. -/
theorem course_run_answered {s : Settings} {argv argv' : List String} {seen : List Event}
    {o : Option (Attempt CommandOutput)} (h : Course (Toolbox.run s argv) seen o) {u : Nat}
    {space pod container : String} {outcome : Attempt CommandOutput}
    (ha : .answered u (.exec space pod container argv') outcome ∈ seen) :
    o = some (Toolbox.checked pod argv outcome) := by
  obtain ⟨listing, rest, rfl, hl, hx⟩ := course_run h
  rcases List.mem_append.1 ha with ha | ha
  · cases hl _ ha _ rfl
  cases hx with
  | unsent => cases ha
  | unanswered => cases List.mem_singleton.1 ha
  | answered outcome' =>
      rcases List.mem_cons.1 ha with ha | ha
      · cases ha
      · cases List.mem_singleton.1 ha
        rfl

/-- A command that succeeds was run and gave exit code zero. -/
theorem course_run_ok {s : Settings} {argv : List String} {seen : List Event}
    {output : CommandOutput} (h : Course (Toolbox.run s argv) seen (some (.ok output))) :
    output.code = 0 ∧ Ran argv (.ok output) seen := by
  obtain ⟨listing, rest, rfl, hl, hx⟩ := course_run h
  obtain ⟨hc, t, u, pod, container, rfl⟩ := hx.of_ok
  exact ⟨hc, ran_of_answered hl ..⟩

/-! ## Reports and answers -/

/-- A report was read, and no other command was run. -/
def Reported (status : Status) (seen : List Event) : Prop :=
  ∃ output, output.code = 0 ∧ Status.parse? output.stdout = some status ∧
    Ran Command.status.argv (.ok output) seen

/-- Whether an outcome says that an OSD can go. A command that gives an exit code may say so too,
in what it writes as an error. -/
def SaysSafe : Attempt CommandOutput → Prop
  | .ok output =>
    if output.code = 0 then (Monitor.Answer.ofOutput output).removability = .safe
    else Removability.ofText output.stderr = .safe
  | .error (.exitCode _ _ _ stderr) => Removability.ofText stderr = .safe
  | .error _ => False

/-- Ceph was asked about an OSD and said that it can go, and no other command was run. -/
def SaidSafe (osd : UInt32) (seen : List Event) : Prop :=
  ∃ outcome, SaysSafe outcome ∧ Ran (Command.safeToDestroy osd).argv outcome seen

theorem parse?_of_readStatus {output : CommandOutput} {status : Status}
    (h : Monitor.readStatus output = .ok status) : Status.parse? output.stdout = some status := by
  unfold Monitor.readStatus at h
  split at h
  · cases h
    assumption
  · cases h

theorem course_fetchStatus_ok {c : Context} {seen : List Event} {status : Status}
    (h : Course (Monitor.fetchStatus c) seen (some (.ok status))) : Reported status seen := by
  obtain ⟨_, upkeep, rest, rfl, hu, h₁⟩ := (Job.course_bind_ok ..).1 h
  obtain ⟨output, first, last, rfl, ho, h₂⟩ := (Job.course_bind_ok ..).1 h₁
  obtain ⟨rfl, hs⟩ := (Job.course_during_ok ..).1 h₂
  obtain ⟨hcode, hr⟩ := course_run_ok ((Job.course_during_ok ..).1 ho)
  have hu : commands upkeep = [] :=
    commands_eq_nil (sends_ensureReady c _ _ ((Job.course_during_ok ..).1 hu))
      fun _ => Upkeep.not_command
  refine ⟨output, hcode, parse?_of_readStatus (Option.some.inj hs).symm, ?_⟩
  simpa using hr.append hu commands_nil

theorem saysSafe_of_checked {pod : String} {argv : List String} {outcome : Attempt CommandOutput}
    {answer : Monitor.Answer}
    (h : Monitor.Answer.ofOutcome (Toolbox.checked pod argv outcome) = .ok answer)
    (hs : answer.removability = .safe) : SaysSafe outcome := by
  cases outcome with
  | ok output =>
      simp only [SaysSafe]
      simp only [Toolbox.checked] at h
      split at h
      · cases h
        rwa [if_pos ‹_›]
      · rw [if_neg ‹_›]
        simp only [Monitor.Answer.ofOutcome] at h
        split at h
        · cases h
        · cases h
          exact hs
  | error f =>
      cases f with
      | exitCode code pod line stderr =>
          simp only [Toolbox.checked, Monitor.Answer.ofOutcome] at h
          split at h
          · cases h
          · cases h
            exact hs
      | _ => cases h

theorem course_askRemovability_ok {c : Context} {osd : UInt32} {seen : List Event}
    {answer : Monitor.Answer}
    (h : Course (Monitor.askRemovability c osd) seen (some (.ok answer)))
    (hs : answer.removability = .safe) : SaidSafe osd seen := by
  obtain ⟨o, h₁, ho⟩ := (Job.course_map ..).1 ((Job.course_during_ok ..).1 h)
  obtain ⟨listing, rest, rfl, hl, hx⟩ := course_run h₁
  -- an exit code is the only failure that is read as an answer
  have unfinished : ∀ {o}, Unfinished o → some (.ok answer) = o.map Monitor.Answer.ofOutcome →
      False := by
    rintro (_ | a) hu ho
    · cases ho
    · obtain ⟨f, rfl, hf⟩ := hu a rfl
      cases f with
      | exitCode code pod line stderr => exact hf code pod line stderr rfl
      | _ => cases ho
  cases hx with
  | unsent hu => exact (unfinished hu ho).elim
  | unanswered hu => exact (unfinished hu ho).elim
  | answered outcome =>
      exact ⟨outcome, saysSafe_of_checked (Option.some.inj ho).symm hs, ran_of_answered hl ..⟩

end OsdMigration
