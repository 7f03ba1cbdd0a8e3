import OsdMigration.Proofs.Phrases
import OsdMigration.Proofs.Wait

set_option autoImplicit false

/-! # For whom an answer counts

The answer to the question whether an OSD can go is read from one text of the outcome
(`Monitor.textRead?`), and the phrases in that text name OSDs themselves. They are not compared with
the OSD that was asked about: an answer is safe, and a poll of the wait counts, exactly if the text
calls any OSD safe to destroy (`counts_iff_any_named`). So another OSD's phrase counts for the one
that was asked about (`foreign_phrase_counts`).
-/

namespace OsdMigration

open Ceph (Command Removability)
open Ceph.Removability (FirstBusy IsNumber busyPhrase isNumber_toString ofText_busy_iff
  ofText_safe_iff safePhrase)
open Cluster (CommandOutput Request)
open Job (Course)

/-- The text that the answer is read from. What a command wrote as an error counts first; its output
counts if it succeeded and the error could not be understood. -/
def Monitor.textRead? : Attempt CommandOutput → Option String
  | .ok output =>
    if output.code = 0 ∧ Removability.ofText output.stderr = .unknown then some output.stdout
    else some output.stderr
  | .error (.exitCode _ _ _ stderr) => some stderr
  | .error _ => none

theorem removability_ofOutput (output : CommandOutput) :
    (Monitor.Answer.ofOutput output).removability = Removability.ofText
      (if Removability.ofText output.stderr = .unknown then output.stdout else output.stderr) := by
  simp only [Monitor.Answer.ofOutput]
  cases h : Removability.ofText output.stderr <;> simp [h]

/-- The outcome is an answer that says what its text says, or a failure with a text that is not
understood. -/
theorem answer_of_text {outcome : Attempt CommandOutput} {text : String}
    (ht : Monitor.textRead? outcome = some text) (pod : String) (argv : List String) :
    (∃ answer, Monitor.Answer.ofOutcome (Toolbox.checked pod argv outcome) = .ok answer ∧
      answer.removability = Removability.ofText text) ∨
    Removability.ofText text = .unknown ∧
      ∃ f, Monitor.Answer.ofOutcome (Toolbox.checked pod argv outcome) = .error f := by
  -- an exit code is an answer if the error text can be read, and stays a failure if not
  have hexit : ∀ code pod' line,
      (∃ answer, Monitor.Answer.ofOutcome (.error (.exitCode code pod' line text)) = .ok answer ∧
        answer.removability = Removability.ofText text) ∨
      Removability.ofText text = .unknown ∧
        ∃ f, Monitor.Answer.ofOutcome (.error (.exitCode code pod' line text)) = .error f := by
    intro code pod' line
    simp only [Monitor.Answer.ofOutcome]
    cases h : Removability.ofText text with
    | unknown => exact .inr ⟨rfl, _, rfl⟩
    | safe => exact .inl ⟨_, rfl, rfl⟩
    | busy groups => exact .inl ⟨_, rfl, rfl⟩
  cases outcome with
  | ok output =>
      by_cases hcode : output.code = 0
      · have hchecked : Toolbox.checked pod argv (.ok output) = .ok output := if_pos hcode
        rw [hchecked]
        refine .inl ⟨_, rfl, ?_⟩
        rw [removability_ofOutput]
        simp only [Monitor.textRead?, hcode, true_and] at ht
        split at ht
        · rename_i hu
          rw [if_pos hu, Option.some.inj ht]
        · rename_i hu
          rw [if_neg hu, Option.some.inj ht]
      · have htext : output.stderr = text := by
          rw [Monitor.textRead?, if_neg fun h => hcode h.1] at ht
          exact Option.some.inj ht
        have hchecked : Toolbox.checked pod argv (.ok output) =
            .error (.exitCode output.code pod (Request.commandLine argv) text) := by
          rw [← htext]
          exact if_neg hcode
        rw [hchecked]
        exact hexit ..
  | error f =>
      cases f with
      | exitCode code pod' line stderr =>
          obtain rfl : stderr = text := Option.some.inj ht
          exact hexit ..
      | _ => cases ht

/-- What the answer says is what its text says. -/
theorem ofText_of_answer {pod : String} {argv : List String} {outcome : Attempt CommandOutput}
    {text : String} {answer : Monitor.Answer} (ht : Monitor.textRead? outcome = some text)
    (h : Monitor.Answer.ofOutcome (Toolbox.checked pod argv outcome) = .ok answer) :
    answer.removability = Removability.ofText text := by
  rcases answer_of_text ht pod argv with ⟨answer', hok, hr⟩ | ⟨_, f, hf⟩
  · rw [h] at hok
    cases hok
    exact hr
  · rw [h] at hf
    cases hf

theorem ok_of_during {α : Type} {step : String} {a : Attempt α} {x : α}
    (h : a.during step = .ok x) : a = .ok x := by
  cases a with
  | error f => cases h
  | ok y => exact h

/-! ## The answer to a question -/

/-- The question about an OSD was answered with an outcome. -/
def AnsweredWith (osd : UInt32) (outcome : Attempt CommandOutput) (seen : List Event) : Prop :=
  ∃ u space pod container,
    .answered u (.exec space pod container (Command.safeToDestroy osd).argv) outcome ∈ seen

/-- Where the question is not among the requests it was not answered. -/
theorem not_answeredWith {allowed : Request → Prop} {osd : UInt32}
    {outcome : Attempt CommandOutput} {seen : List Event} (h : Asking allowed seen)
    (hn : ∀ space pod container,
      ¬ allowed (.exec space pod container (Command.safeToDestroy osd).argv)) :
    ¬ AnsweredWith osd outcome seen := by
  rintro ⟨u, space, pod, container, hm⟩
  exact hn _ _ _ (h _ hm _ rfl)

theorem answeredWith_append {osd : UInt32} {outcome : Attempt CommandOutput}
    {first rest : List Event} (h : ¬ AnsweredWith osd outcome first) :
    AnsweredWith osd outcome (first ++ rest) ↔ AnsweredWith osd outcome rest := by
  constructor
  · rintro ⟨u, space, pod, container, hm⟩
    rcases List.mem_append.1 hm with hm | hm
    · exact absurd ⟨u, space, pod, container, hm⟩ h
    · exact ⟨u, space, pod, container, hm⟩
  · rintro ⟨u, space, pod, container, hm⟩
    exact ⟨u, space, pod, container, List.mem_append_right _ hm⟩

/-- A question that was answered ends with what is made of the outcome. -/
theorem course_askRemovability_of_answered {c : Context} {osd : UInt32}
    {outcome : Attempt CommandOutput} {seen : List Event} {o : Option (Attempt Monitor.Answer)}
    (h : Course (Monitor.askRemovability c osd) seen o) (ha : AnsweredWith osd outcome seen) :
    ∃ pod, o = some ((Monitor.Answer.ofOutcome (Toolbox.checked pod
      (Command.safeToDestroy osd).argv outcome)).during
        ("unable to check if osd " ++ toString osd ++ " is safe to destroy")) := by
  obtain ⟨o₁, h₁, rfl⟩ := (Job.course_during ..).1 h
  obtain ⟨o₂, h₂, rfl⟩ := (Job.course_map ..).1 h₁
  obtain ⟨u, space, pod, container, hm⟩ := ha
  rw [course_run_answered h₂ hm]
  exact ⟨pod, rfl⟩

/-- The result of a question that was answered is what its text says. -/
theorem course_removability_of_answered {c : Context} {osd : UInt32}
    {outcome : Attempt CommandOutput} {text : String} {seen : List Event}
    {o : Option (Attempt Removability)} (h : Course (Monitor.removability c osd) seen o)
    (ha : AnsweredWith osd outcome seen) (ht : Monitor.textRead? outcome = some text)
    {r : Removability} (hr : r ≠ .unknown) :
    o = some (.ok r) ↔ Removability.ofText text = r := by
  rcases (Job.course_bind ..).1 h with ⟨answer, first, _, rfl, hq, rfl, rfl⟩ | ⟨f, hq, rfl⟩ |
    ⟨hq, rfl⟩
  · rw [List.append_nil] at ha
    obtain ⟨pod, ho⟩ := course_askRemovability_of_answered hq ha
    rw [← ofText_of_answer ht (ok_of_during (Option.some.inj ho).symm)]
    simp
  · obtain ⟨pod, ho⟩ := course_askRemovability_of_answered hq ha
    constructor
    · intro h
      cases h
    · rintro rfl
      -- a text that is understood would have been an answer
      rcases answer_of_text ht pod (Command.safeToDestroy osd).argv with ⟨_, hok, _⟩ | ⟨hu, _⟩
      · rw [hok] at ho
        cases ho
      · exact absurd hu hr
  · obtain ⟨pod, ho⟩ := course_askRemovability_of_answered hq ha
    cases ho

/-! ## The wait -/

/-- The wait goes on with a longer streak, or it is over. -/
def RemovalWait.Counts (w : RemovalWait) : Poll RemovalWait → Prop
  | .met => True
  | .again w' _ => w'.streak = w.streak + 1

/-- What a finding leads to counts exactly if the finding is in favour. -/
theorem counts_iff_favours {osd : UInt32} {wanted : Nat} {w : RemovalWait}
    {finding : RemovalWait.Finding} {outcome : Poll RemovalWait}
    (h : RemovalWait.observe osd wanted w finding = .ok outcome) :
    w.Counts outcome ↔ finding.Favours := by
  have starts : ∀ w' passing, w'.streak = 0 → ¬ w.Counts (.again w' passing) := by
    intro w' passing h₀ hc
    have : w'.streak = w.streak + 1 := hc
    omega
  unfold RemovalWait.observe at h
  split at h
  · obtain ⟨budget, _, h⟩ := bind_ok h
    cases h
    exact iff_of_false (starts _ _ rfl) id
  · cases h
    exact iff_of_false (starts _ _ rfl) id
  · refine iff_of_true ?_ rfl
    simp only at h
    split at h <;> cases h
    · trivial
    · rfl
  · cases h
    exact iff_of_false (starts _ _ rfl) nofun
  · obtain ⟨budget, _, h⟩ := bind_ok h
    cases h
    exact iff_of_false (starts _ _ rfl) nofun
  · obtain ⟨budget, _, h⟩ := bind_ok h
    cases h
    exact iff_of_false (starts _ _ rfl) id

/-- The report before a question does not ask it. -/
theorem not_answeredWith_report {c : Context} {osd : UInt32} {outcome : Attempt CommandOutput}
    {report : List Event} {o : Option (Attempt Ceph.Status)}
    (h : Course (Monitor.fetchStatus c) report o) : ¬ AnsweredWith osd outcome report := by
  have hasks : Asking (Asks c.settings fun _ => False) report := sends_fetchStatus c _ _ h
  refine not_answeredWith hasks ?_
  intro space pod container ha
  generalize hargv : (Command.safeToDestroy osd).argv = argv at ha
  cases ha with
  | upkeep hu => cases hu
  | status => simp [Command.argv] at hargv
  | safeToDestroy hn => exact hn

/-- A poll whose question was answered counts exactly if the text of the answer is a safe one. -/
theorem course_poll_of_answered {c : Context} {osd : UInt32} {wanted : Nat} {p : Pacer}
    {w : RemovalWait} {outcome : Attempt CommandOutput} {text : String} {seen : List Event}
    {o : Poll RemovalWait}
    (h : Course (RemovalWait.poll c osd wanted p w) seen (some (.ok o)))
    (ha : AnsweredWith osd outcome seen) (ht : Monitor.textRead? outcome = some text) :
    w.Counts o ↔ Removability.ofText text = .safe := by
  obtain ⟨report, front, rest, rfl, hr, h₁⟩ := (Job.course_bind_ok ..).1 h
  replace hr := (Job.course_guarded_ok ..).1 hr
  -- the answer belongs to the question, since a report does not ask about an OSD
  have hnot : ¬ AnsweredWith osd outcome front := not_answeredWith_report hr
  replace ha := (answeredWith_append hnot).1 ha
  cases report with
  | error f =>
      obtain ⟨rfl, _⟩ := h₁
      obtain ⟨_, _, _, _, hm⟩ := ha
      cases hm
  | ok status =>
      replace h₁ : Course (if status.verdict.1 then _ else _) rest (some (.ok o)) := h₁
      split at h₁
      · obtain ⟨a, question, _, rfl, hq, rfl, ho⟩ := (Job.course_bind_ok ..).1 h₁
        replace hq := (Job.course_guarded_ok ..).1 hq
        rw [List.append_nil] at ha
        obtain ⟨pod, hpod⟩ := course_askRemovability_of_answered hq ha
        rw [counts_iff_favours (Option.some.inj ho).symm]
        cases a with
        | ok answer =>
            rw [← ofText_of_answer ht (ok_of_during (Option.some.inj hpod).symm)]
            exact Iff.rfl
        | error f =>
            refine iff_of_false id fun hs => ?_
            rcases answer_of_text ht pod (Command.safeToDestroy osd).argv with ⟨_, hok, _⟩ | ⟨hu, _⟩
            · rw [hok] at hpod
              cases hpod
            · rw [hu] at hs
              cases hs
      · obtain ⟨rfl, _⟩ := h₁
        obtain ⟨_, _, _, _, hm⟩ := ha
        cases hm

/-! ## An answer about two OSDs -/

/-- What Ceph writes as an error when it calls one OSD safe to destroy and another busy. -/
def mixedWords : String :=
  "OSD(s) 3 are safe to destroy without reducing data durability. "
    ++ "Error EBUSY: OSD(s) 0 have 12 pgs currently mapped to them"

/-- The outcome of a command that writes so and fails. -/
def mixedOutcome : Attempt CommandOutput := .ok ⟨16, "", mixedWords⟩

theorem textRead?_mixedOutcome : Monitor.textRead? mixedOutcome = some mixedWords := rfl

/-- A pod that commands run in. -/
def commandPod : Cluster.Pod := { spec := some { containers := [{ name := "rook-ceph-tools" }] } }

/-- What is seen of a command where the cluster has one pod of the toolbox. -/
def commandSeen (s : Settings) (argv : List String) (outcome : Attempt CommandOutput) :
    List Event :=
  [.called 0 (.listPods s.space s.toolboxSelector),
    .answered 0 (.listPods s.space s.toolboxSelector) (.ok [commandPod])] ++
  [.called 0 (.exec s.space "" "rook-ceph-tools" argv),
    .answered 0 (.exec s.space "" "rook-ceph-tools" argv) outcome]

/-- A command can be answered in any way. -/
theorem course_commandSeen (s : Settings) (argv : List String) (outcome : Attempt CommandOutput) :
    Course (Toolbox.run s argv) (commandSeen s argv outcome)
      (some (Toolbox.checked "" argv outcome)) := by
  refine (Job.course_bind ..).2 (.inl ⟨[commandPod], _, _, rfl, ?_, ?_⟩)
  · exact (Job.course_during_ok ..).2 ((Job.course_ask_ok ..).2 ⟨0, 0, rfl⟩)
  refine (Job.course_bind ..).2 (.inl ⟨("", "rook-ceph-tools"), [], _, rfl, ⟨rfl, rfl⟩, ?_⟩)
  refine (Job.course_bind ..).2 (.inl ⟨outcome, _, [], (List.append_nil _).symm, ?_, ?_⟩)
  · have hcall : (Procedure.call (.exec s.space "" "rook-ceph-tools" argv) .pure).Course _
        (some outcome) := .inr ⟨0, 0, outcome, [], rfl, rfl, rfl⟩
    exact (Job.course_guarded_ok ⟨0, none⟩ _ _ _ _).2 hcall
  · rw [checked_eq]
    exact ⟨rfl, rfl⟩

/-! ## The OSD that a text names -/

/-- A text calls an OSD safe to destroy. -/
def CallsSafe (text : String) (osd : List Char) : Prop :=
  IsNumber osd ∧ safePhrase osd <:+: text.toList

/-- A text says that an OSD still has so many placement groups. -/
def CallsBusy (text : String) (osd count : List Char) : Prop :=
  IsNumber osd ∧ busyPhrase osd count <:+: text.toList

/-- A text calls no OSD safe or busy but the given one. -/
def NamesOnly (osd : List Char) (text : String) : Prop :=
  (∀ n, CallsSafe text n → n = osd) ∧ ∀ n count, CallsBusy text n count → n = osd

/-- What it means for the question about an OSD that its answer is read from a text. -/
structure ReadFrom (c : Context) (osd : UInt32) (outcome : Attempt CommandOutput)
    (text : String) : Prop where
  /-- The answer is that the OSD can go if the text calls any OSD safe, and only then. -/
  safe : ∀ seen o, Course (Monitor.removability c osd) seen o → AnsweredWith osd outcome seen →
    (o = some (.ok .safe) ↔ ∃ n, CallsSafe text n)
  /-- The answer has the count of the first OSD that the text calls busy, if it calls none safe. -/
  busy : ∀ seen o, Course (Monitor.removability c osd) seen o → AnsweredWith osd outcome seen →
    ∀ groups, o = some (.ok (.busy groups)) ↔ (¬ ∃ n, CallsSafe text n) ∧
      ∃ count, FirstBusy count text.toList ∧ Text.uint32? (String.ofList count) = some groups
  /-- A poll of the wait counts if the text calls any OSD safe, and only then. -/
  counts : ∀ wanted p w seen o, Course (RemovalWait.poll c osd wanted p w) seen (some (.ok o)) →
    AnsweredWith osd outcome seen → (w.Counts o ↔ ∃ n, CallsSafe text n)
  /-- If the text names no other OSD, then a safe answer, a poll that counts and a busy answer are
  each about the OSD that was asked about. -/
  about : NamesOnly (toString osd).toList text →
    (∀ seen o, Course (Monitor.removability c osd) seen o → AnsweredWith osd outcome seen →
      (o = some (.ok .safe) → CallsSafe text (toString osd).toList) ∧
      ∀ groups, o = some (.ok (.busy groups)) → ∃ count, CallsBusy text (toString osd).toList count ∧
        Text.uint32? (String.ofList count) = some groups) ∧
    ∀ wanted p w seen o, Course (RemovalWait.poll c osd wanted p w) seen (some (.ok o)) →
      AnsweredWith osd outcome seen → w.Counts o → CallsSafe text (toString osd).toList

/-- The answer about an OSD is what its text says of whichever OSD the text names. -/
theorem answer_of_any_named (c : Context) (osd : UInt32) {outcome : Attempt CommandOutput}
    {text : String} (ht : Monitor.textRead? outcome = some text) :
    ReadFrom c osd outcome text := by
  have hsafe : ∀ seen o, Course (Monitor.removability c osd) seen o →
      AnsweredWith osd outcome seen → (o = some (.ok .safe) ↔ ∃ n, CallsSafe text n) := by
    intro seen o h ha
    rw [course_removability_of_answered (r := .safe) h ha ht nofun]
    exact ofText_safe_iff
  have hbusy : ∀ seen o, Course (Monitor.removability c osd) seen o →
      AnsweredWith osd outcome seen → ∀ groups, o = some (.ok (.busy groups)) ↔
        (¬ ∃ n, CallsSafe text n) ∧ ∃ count, FirstBusy count text.toList ∧
          Text.uint32? (String.ofList count) = some groups := by
    intro seen o h ha groups
    rw [course_removability_of_answered (r := .busy groups) h ha ht nofun]
    exact ofText_busy_iff
  have hcounts : ∀ wanted p w seen o,
      Course (RemovalWait.poll c osd wanted p w) seen (some (.ok o)) →
        AnsweredWith osd outcome seen → (w.Counts o ↔ ∃ n, CallsSafe text n) := by
    intro wanted p w seen o h ha
    rw [course_poll_of_answered h ha ht]
    exact ofText_safe_iff
  refine ⟨hsafe, hbusy, hcounts, fun hn => ⟨fun seen o h ha => ⟨fun ho => ?_, ?_⟩, ?_⟩⟩
  · obtain ⟨n, hc⟩ := (hsafe seen o h ha).1 ho
    rwa [← hn.1 n hc]
  · intro groups ho
    obtain ⟨_, count, hf, hg⟩ := (hbusy seen o h ha groups).1 ho
    obtain ⟨n, hc⟩ := hf.occurs
    refine ⟨count, ?_, hg⟩
    rwa [← hn.2 n count hc]
  · intro wanted p w seen o h ha ho
    obtain ⟨n, hc⟩ := (hcounts wanted p w seen o h ha).1 ho
    rwa [← hn.1 n hc]

/-- The answer about an OSD is read from words that call it busy and another one safe. -/
theorem mixed_read_as_answer :
    Monitor.textRead? mixedOutcome = some mixedWords ∧
      ReadFrom ⟨Settings.standard, 1⟩ 0 mixedOutcome mixedWords :=
  ⟨textRead?_mixedOutcome, answer_of_any_named ⟨Settings.standard, 1⟩ 0 textRead?_mixedOutcome⟩

/-- An OSD that Ceph calls busy is taken to be safe because Ceph calls another one safe. -/
theorem foreign_phrase_counts :
    ∃ c seen, Course (Monitor.removability c 0) seen (some (.ok .safe)) ∧
      AnsweredWith 0 mixedOutcome seen ∧ Monitor.textRead? mixedOutcome = some mixedWords ∧
      ¬ CallsSafe mixedWords (toString (0 : UInt32)).toList ∧
      CallsBusy mixedWords (toString (0 : UInt32)).toList "12".toList := by
  have hrun := course_commandSeen Settings.standard (Command.safeToDestroy 0).argv mixedOutcome
  have hanswer : Monitor.Answer.ofOutcome (Toolbox.checked "" (Command.safeToDestroy 0).argv
      mixedOutcome) = .ok ⟨.safe, mixedWords⟩ := by
    have hs : Removability.ofText mixedWords = .safe := by decide +kernel
    simp [mixedOutcome, Toolbox.checked, Monitor.Answer.ofOutcome, hs]
  refine ⟨⟨Settings.standard, 1⟩, commandSeen Settings.standard (Command.safeToDestroy 0).argv
    mixedOutcome, ?_, ⟨0, "rook-ceph", "", "rook-ceph-tools", ?_⟩, rfl, ?_, ?_⟩
  · have hask : Course (Monitor.askRemovability ⟨Settings.standard, 1⟩ 0) _
        (some (.ok ⟨.safe, mixedWords⟩)) :=
      (Job.course_during_ok ..).2 ((Job.course_map ..).2 ⟨_, hrun, congrArg some hanswer.symm⟩)
    exact (Job.course_bind ..).2 (.inl ⟨_, _, [], (List.append_nil _).symm, hask, rfl, rfl⟩)
  · simp [commandSeen, Settings.standard]
  · rintro ⟨_, h⟩
    revert h
    decide +kernel
  · exact ⟨isNumber_toString 0,
      "OSD(s) 3 are safe to destroy without reducing data durability. ".toList, [],
      by decide +kernel⟩

end OsdMigration
