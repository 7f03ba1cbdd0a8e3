import OsdMigration.Proofs.Commands

set_option autoImplicit false

/-! # What a wait that ends well has seen

A wait that ends well is a chain of rounds, a poll with a pause behind it, and at last a poll that
meets the condition. For each wait of a removal this gives what was seen at the end. The wait until
an OSD can go keeps an invariant: as many of its last polls as it remembers were favourable.
-/

namespace OsdMigration

open Ceph (Status)
open Cluster (Deployment Request)
open Job (Course)

/-- Nothing is asked: there are messages only. -/
abbrev Quiet (seen : List Event) : Prop := Asking (fun _ => False) seen

theorem Quiet.commands {seen : List Event} (h : Quiet seen) : commands seen = [] :=
  commands_eq_nil h fun _ => False.elim

/-- An attempt after another succeeds only if both do. -/
theorem bind_ok {α β : Type} {a : Attempt α} {f : α → Attempt β} {b : β}
    (h : (a >>= f) = .ok b) : ∃ x, a = .ok x ∧ f x = .ok b := by
  cases a with
  | error e => cases h
  | ok x => exact ⟨x, rfl, h⟩

/-- What holds at the last poll of a wait and is passed on by every round before it, holds of a
wait that ends well. -/
theorem wait_ok_induction {ω : Type} {p : Pacer} {stopped : ω → Interruption → Failure}
    {poll : ω → Job (Poll ω)} {Q : ω → List Event → Prop}
    (met : ∀ w seen, Course (poll w) seen (some (.ok .met)) → Q w seen)
    (again : ∀ w w' passing first pause rest,
      Course (poll w) first (some (.ok (.again w' passing))) → Quiet pause → Q w' rest →
        Q w (first ++ pause ++ rest))
    {n : Nat} {w : ω} {seen : List Event}
    (h : Course (p.wait stopped poll n w) seen (some (.ok ()))) : Q w seen := by
  -- on the number of polls that are left
  induction n generalizing w seen with
  | zero => cases h.2
  | succ n ih =>
      obtain ⟨outcome, first, others, rfl, hp, ho⟩ := (Job.course_bind_ok ..).1 h
      cases outcome with
      | met =>
          obtain ⟨rfl, _⟩ := ho
          rw [List.append_nil]
          exact met w first hp
      | again w' passing =>
          obtain ⟨_, said, slept, rfl, hs, hn⟩ := (Job.course_bind_ok ..).1 ho
          obtain ⟨_, pause, rest, rfl, hsleep, hrest⟩ := (Job.course_bind_ok ..).1 hn
          -- between two polls the wait only tells how it goes and sleeps
          have hA := cumulative_asking (fun _ : Request => False)
          have hq : Quiet (said ++ pause) := by
            refine hA.append ?_ ?_
            · cases passing with
              | none => exact hA.pure () _ _ hs
              | some text => exact hA.tell _ _ _ hs
            · refine hA.guarded p _ ?_ _ _ hsleep
              rintro _ _ (⟨rfl, _⟩ | ⟨rfl, _⟩) <;> exact hA.nil
          have := again w w' passing first _ rest hp hq (ih hrest)
          simpa using this

/-! ## Polls in a row -/

/-- The last polls, so many of them, were good one after the other. -/
def Streak (good : List Event → Prop) (wanted : Nat) (seen : List Event) : Prop :=
  ∃ (earlier : List Event) (polls : List (List Event)), seen = earlier ++ polls.flatten ∧
    polls.length = wanted ∧ ∀ poll ∈ polls, good poll

/-- The last polls were good: as many as are wanted, or, if there were no others, as many as are
wanting to a streak from before. -/
def StreakFrom (good : List Event → Prop) (wanted streak : Nat) (seen : List Event) : Prop :=
  ∃ (earlier : List Event) (polls : List (List Event)), seen = earlier ++ polls.flatten ∧
    (polls.length = wanted ∨ earlier = [] ∧ polls.length + streak = wanted) ∧
    ∀ poll ∈ polls, good poll

section

variable {good : List Event → Prop} {wanted streak : Nat} {seen : List Event}

theorem Streak.append (h : Streak good wanted seen) (before : List Event) :
    Streak good wanted (before ++ seen) := by
  obtain ⟨earlier, polls, rfl, h⟩ := h
  exact ⟨before ++ earlier, polls, by simp, h⟩

theorem StreakFrom.append (h : StreakFrom good wanted 0 seen) (before : List Event)
    (streak : Nat) : StreakFrom good wanted streak (before ++ seen) := by
  obtain ⟨earlier, polls, rfl, hl, hg⟩ := h
  refine ⟨before ++ earlier, polls, by simp, .inl ?_, hg⟩
  omega

theorem StreakFrom.cons {poll : List Event} (h : StreakFrom good wanted (streak + 1) seen)
    (hp : good poll) : StreakFrom good wanted streak (poll ++ seen) := by
  obtain ⟨earlier, polls, rfl, hl | ⟨rfl, hl⟩, hg⟩ := h
  · exact ⟨poll ++ earlier, polls, by simp, .inl hl, hg⟩
  · refine ⟨[], poll :: polls, by simp, .inr ⟨rfl, ?_⟩, ?_⟩
    · rw [List.length_cons]
      omega
    · rintro q (_ | ⟨_, hq⟩)
      · exact hp
      · exact hg q hq

/-- A streak of which nothing is from before. -/
theorem StreakFrom.done (h : StreakFrom good wanted 0 seen) : Streak good wanted seen := by
  obtain ⟨earlier, polls, rfl, hl, hg⟩ := h
  exact ⟨earlier, polls, rfl, by omega, hg⟩

/-- What a poll leads to in a wait for a streak: it was good and counts, or the count starts again.
-/
def CountsStreak {ω : Type} (good : List Event → Prop) (count : ω → Nat) (wanted : Nat) (w : ω)
    (seen : List Event) (outcome : Poll ω) : Prop :=
  (good seen ∧
    ((outcome = .met ∧ wanted ≤ count w + 1) ∨
      ∃ w' passing, outcome = .again w' passing ∧ count w' = count w + 1 ∧
        count w + 1 < wanted)) ∨
  ∃ w' passing, outcome = .again w' passing ∧ count w' = 0

/-- A wait for a streak that ends well has seen it at its end. -/
theorem wait_streak {ω : Type} {p : Pacer} {stopped : ω → Interruption → Failure}
    {poll : ω → Job (Poll ω)} (count : ω → Nat) (hpos : 0 < wanted)
    (hpause : ∀ poll pause, good poll → Quiet pause → good (poll ++ pause))
    (hpoll : ∀ w seen outcome, Course (poll w) seen (some (.ok outcome)) →
      CountsStreak good count wanted w seen outcome)
    {n : Nat} {w : ω} (hw : count w = 0)
    (h : Course (p.wait stopped poll n w) seen (some (.ok ()))) : Streak good wanted seen := by
  -- the streak of the wait counts the good polls just before
  have hs : count w < wanted → StreakFrom good wanted (count w) seen := by
    refine wait_ok_induction
      (Q := fun w seen => count w < wanted → StreakFrom good wanted (count w) seen) ?_ ?_ h
    · intro w seen hp hlt
      rcases hpoll w seen .met hp with ⟨hgood, ⟨_, hm⟩ | ⟨_, _, ho, _⟩⟩ | ⟨_, _, ho, _⟩
      · refine ⟨[], [seen], by simp, .inr ⟨rfl, ?_⟩, ?_⟩
        · simp only [List.length_singleton]
          omega
        · intro q hq
          rw [List.mem_singleton.1 hq]
          exact hgood
      · cases ho
      · cases ho
    · -- the streak goes on, or it starts again and what was seen so far does not count
      intro w w' passing first pause rest hp hq hrest hlt
      rcases hpoll w first _ hp with ⟨hgood, ⟨ho, _⟩ | ⟨_, _, ho, hw', hm⟩⟩ | ⟨_, _, ho, hw'⟩
      · cases ho
      · cases ho
        rw [hw'] at hrest
        exact (hrest hm).cons (hpause _ _ hgood hq)
      · cases ho
        rw [hw'] at hrest
        exact (hrest hpos).append _ _
  rw [hw] at hs
  exact (hs hpos).done

end

theorem confirmations_pos (n : UInt32) : 0 < confirmations n := by
  unfold confirmations
  omega

/-! ## Waiting for a scale -/

/-- A deployment was looked at that asks for a scale, or does not say, and is at it. -/
def SeenAtScale (space name : String) (scale : Int) (seen : List Event) : Prop :=
  ∃ u d, .answered u (.getDeployment space name) (.ok (some d)) ∈ seen ∧
    (d.wanted? = none ∨ d.wanted? = some scale) ∧ d.atScale scale = true

theorem observe_scale_met {g : ScaleWait.Goal} {w : ScaleWait} {a : Attempt (Option Deployment)}
    (h : ScaleWait.observe g w a = .ok .met) :
    ∃ d, a = .ok (some d) ∧ (d.wanted? = none ∨ d.wanted? = some g.scale) ∧
      d.atScale g.scale = true := by
  unfold ScaleWait.observe at h
  split at h
  · rename_i d
    simp only at h
    split at h
    · cases h
    · rename_i hw
      split at h
      · refine ⟨d, rfl, ?_, ‹_›⟩
        cases hd : d.wanted? with
        | none => exact .inl rfl
        | some n =>
            rw [hd, Option.filter_some] at hw
            simp_all
      · cases h
  all_goals
    obtain ⟨budget, _, h⟩ := bind_ok h
    cases h

/-- A wait for a scale that ends well has seen it. -/
theorem course_awaitScale_ok {c : Context} {name : String} {scale : Int} {timeout : Nat}
    {seen : List Event} (h : Course (awaitScale c name scale timeout) seen (some (.ok ()))) :
    SeenAtScale c.settings.space name scale seen := by
  obtain ⟨_, told, rest, rfl, _, h₁⟩ := (Job.course_bind_ok ..).1 h
  obtain ⟨p, _, rest, rfl, hstart, h₂⟩ := (Job.course_bind_ok ..).1 h₁
  obtain ⟨rfl, _⟩ := (Job.course_start ..).1 hstart
  have hr : SeenAtScale c.settings.space name scale rest := by
    refine wait_ok_induction (Q := fun _ => SeenAtScale c.settings.space name scale) ?_ ?_ h₂
    · intro w seen hp
      obtain ⟨a, first, _, rfl, ha, rfl, ho⟩ := (Job.course_bind_ok ..).1 hp
      obtain ⟨d, rfl, hw, hs⟩ := observe_scale_met (Option.some.inj ho).symm
      rcases (Job.course_guarded_ok ..).1 ha with ⟨_, _, ho⟩ | ⟨t, u, a, _, rfl, rfl, ho⟩
      · cases ho
      · cases ho
        exact ⟨u, d, by simp, hw, hs⟩
    · rintro _ _ _ _ _ _ _ _ ⟨u, d, hm, hd⟩
      exact ⟨u, d, List.mem_append_right _ hm, hd⟩
  obtain ⟨u, d, hm, hd⟩ := hr
  exact ⟨u, d, List.mem_append_right _ hm, hd⟩

/-! ## Waiting for an OSD to be down -/

/-- The last command was a report in which fewer OSDs were up than the cluster knows. -/
def SeenDown (seen : List Event) : Prop :=
  ∃ earlier report status, seen = earlier ++ report ∧ Reported status report ∧
    status.osds.up < status.osds.total

theorem SeenDown.append {seen : List Event} (h : SeenDown seen) (before : List Event) :
    SeenDown (before ++ seen) := by
  obtain ⟨earlier, report, status, rfl, h⟩ := h
  exact ⟨before ++ earlier, report, status, by simp, h⟩

theorem SeenDown.append_quiet {seen pause : List Event} (h : SeenDown seen) (hp : Quiet pause) :
    SeenDown (seen ++ pause) := by
  obtain ⟨earlier, report, status, rfl, ⟨output, hc, hs, hr⟩, hd⟩ := h
  refine ⟨earlier, report ++ pause, status, by simp, ⟨output, hc, hs, ?_⟩, hd⟩
  simpa using hr.append commands_nil hp.commands

theorem observe_down_met {w : DownWait} {a : Attempt Status}
    (h : DownWait.observe w a = .ok .met) :
    ∃ status, a = .ok status ∧ status.osds.up < status.osds.total := by
  unfold DownWait.observe at h
  split at h
  · split at h
    · rename_i status hd
      exact ⟨status, rfl, by simpa [Ceph.OsdCounts.someDown] using hd⟩
    · cases h
  · obtain ⟨budget, _, h⟩ := bind_ok h
    cases h

theorem course_awaitOsdDown_ok {c : Context} {timeout : Option Nat} {seen : List Event}
    (h : Course (awaitOsdDown c timeout) seen (some (.ok ()))) : SeenDown seen := by
  obtain ⟨p, _, rest, rfl, hstart, h₁⟩ := (Job.course_bind_ok ..).1 h
  obtain ⟨rfl, _⟩ := (Job.course_start ..).1 hstart
  refine wait_ok_induction (Q := fun _ => SeenDown) ?_ ?_ h₁
  · intro w seen hp
    obtain ⟨a, report, _, rfl, ha, rfl, ho⟩ := (Job.course_bind_ok ..).1 hp
    obtain ⟨status, rfl, hd⟩ := observe_down_met (Option.some.inj ho).symm
    refine ⟨[], report, status, by simp, ?_, hd⟩
    exact course_fetchStatus_ok ((Job.course_guarded_ok ..).1 ha)
  · intro _ _ _ first pause rest _ _ hr
    exact hr.append _

/-! ## Waiting until an OSD can go -/

/-- A poll that is in favour of removing an OSD: a report of a healthy cluster is fetched, then Ceph
is asked about the OSD and answers that it can go, and then there may be a pause. Both are said of
the commands and of what became of the calls that sent them. -/
def Favourable (c : Context) (osd : UInt32) (poll : List Event) : Prop :=
  ∃ report answer pause status said, poll = report ++ answer ++ pause ∧
    Course (Monitor.fetchStatus c) report (some (.ok status)) ∧ Reported status report ∧
    status.verdict.1 = true ∧
    Course (Monitor.askRemovability c osd) answer (some (.ok said)) ∧ SaidSafe osd answer ∧
    said.removability = .safe ∧ Quiet pause

theorem Favourable.append {c : Context} {osd : UInt32} {poll pause : List Event}
    (h : Favourable c osd poll) (hp : Quiet pause) : Favourable c osd (poll ++ pause) := by
  obtain ⟨report, answer, first, status, said, rfl, hr, hreport, hv, ha, hsaid, hs, hq⟩ := h
  exact ⟨report, answer, first ++ pause, status, said, by simp, hr, hreport, hv, ha, hsaid, hs,
    (cumulative_asking _).append hq hp⟩

/-- The commands of a favourable poll are the report and the question. -/
theorem Favourable.commands {c : Context} {osd : UInt32} {poll : List Event}
    (h : Favourable c osd poll) :
    ∃ report answer status, poll = report ++ answer ∧ Reported status report ∧
      status.verdict.1 = true ∧ SaidSafe osd answer := by
  obtain ⟨report, answer, pause, status, _, rfl, _, hr, hv, _, ⟨outcome, hsays, hran⟩, _, hq⟩ := h
  refine ⟨report, answer ++ pause, status, by simp, hr, hv, outcome, hsays, ?_⟩
  simpa using hran.append commands_nil hq.commands

/-- The last polls, so many of them, were in favour one after the other. -/
def Settled (c : Context) (osd : UInt32) (wanted : Nat) (seen : List Event) : Prop :=
  Streak (Favourable c osd) wanted seen

/-- A finding in favour of removing an OSD. -/
def RemovalWait.Finding.Favours : RemovalWait.Finding → Prop
  | .asked (.ok answer) => answer.removability = .safe
  | _ => False

/-- What one finding leads to: it was in favour and counts, or the count starts again. -/
theorem observe_removal {osd : UInt32} {wanted : Nat} {w : RemovalWait}
    {finding : RemovalWait.Finding} {outcome : Poll RemovalWait}
    (h : RemovalWait.observe osd wanted w finding = .ok outcome) :
    (finding.Favours ∧
      ((outcome = .met ∧ wanted ≤ w.streak + 1) ∨
        ∃ w' passing, outcome = .again w' passing ∧ w'.streak = w.streak + 1 ∧
          w.streak + 1 < wanted)) ∨
    ∃ w' passing, outcome = .again w' passing ∧ w'.streak = 0 := by
  unfold RemovalWait.observe at h
  split at h
  · obtain ⟨budget, _, h⟩ := bind_ok h
    cases h
    exact .inr ⟨_, _, rfl, rfl⟩
  · cases h
    exact .inr ⟨_, _, rfl, rfl⟩
  · refine .inl ⟨rfl, ?_⟩
    simp only at h
    split at h
    · cases h
      exact .inl ⟨rfl, ‹_›⟩
    · cases h
      exact .inr ⟨_, _, rfl, rfl, by omega⟩
  · cases h
    exact .inr ⟨_, _, rfl, rfl⟩
  · obtain ⟨budget, _, h⟩ := bind_ok h
    cases h
    exact .inr ⟨_, _, rfl, rfl⟩
  · obtain ⟨budget, _, h⟩ := bind_ok h
    cases h
    exact .inr ⟨_, _, rfl, rfl⟩

/-- A poll that does not fail observes a finding, and a finding in favour is a favourable poll. -/
theorem course_poll_removal {c : Context} {osd : UInt32} {wanted : Nat} {p : Pacer}
    {w : RemovalWait} {seen : List Event} {outcome : Poll RemovalWait}
    (h : Course (RemovalWait.poll c osd wanted p w) seen (some (.ok outcome))) :
    ∃ finding, RemovalWait.observe osd wanted w finding = .ok outcome ∧
      (finding.Favours → Favourable c osd seen) := by
  obtain ⟨a, report, rest, rfl, ha, h₁⟩ := (Job.course_bind_ok ..).1 h
  cases a with
  | error f => exact ⟨.blind f, (Option.some.inj h₁.2).symm, False.elim⟩
  | ok status =>
      replace h₁ : Course (if status.verdict.1 then _ else _) rest (some (.ok outcome)) := h₁
      split at h₁
      · rename_i hv
        obtain ⟨a, answer, _, rfl, hq, rfl, ho⟩ := (Job.course_bind_ok ..).1 h₁
        refine ⟨.asked a, (Option.some.inj ho).symm, fun hs => ?_⟩
        cases a with
        | error f => cases hs
        | ok answer =>
            have hfetched := (Job.course_guarded_ok ..).1 ha
            have hasked := (Job.course_guarded_ok ..).1 hq
            rw [List.append_nil]
            exact ⟨report, _, [], status, answer, by simp, hfetched,
              course_fetchStatus_ok hfetched, hv, hasked, course_askRemovability_ok hasked hs, hs,
              (cumulative_asking _).nil⟩
      · exact ⟨.unhealthy status, (Option.some.inj h₁.2).symm, False.elim⟩

/-- A wait that ends well has seen as many favourable polls in a row as are wanted, at its end. -/
theorem course_awaitRemovable_ok {c : Context} {osd : UInt32} {timeout : Option Nat}
    {seen : List Event} (h : Course (awaitRemovable c osd timeout) seen (some (.ok ()))) :
    Settled c osd (confirmations c.settings.safeConfirmations) seen := by
  obtain ⟨p, _, rest, rfl, hstart, h₁⟩ := (Job.course_bind_ok ..).1 h
  obtain ⟨rfl, _⟩ := (Job.course_start ..).1 hstart
  refine wait_streak RemovalWait.streak (confirmations_pos _) (fun _ _ => Favourable.append) ?_ rfl h₁
  intro w seen outcome hp
  obtain ⟨finding, ho, hf⟩ := course_poll_removal hp
  rcases observe_removal ho with ⟨hfav, hcounts⟩ | hstarts
  · exact .inl ⟨hf hfav, hcounts⟩
  · exact .inr hstarts

end OsdMigration
