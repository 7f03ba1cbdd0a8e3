import OsdMigration.Proofs.Summary
import OsdMigration.Proofs.Watch.Question

set_option autoImplicit false

/-! # Waiting for health, by the reports

What a wait for health does is decided by the reports that its polls fetch: by how many of the last
ones were healthy, by how many of the last ones could not be fetched, and by the last one that was
not healthy (`healthWatch`). Every unhealthy report is told of in one line, which always says
something (`summary_ne_empty`), and nothing else is told in passing.
-/

namespace OsdMigration

open Ceph (Status)

/-! ## The line of an unhealthy report -/

/-- A cluster that is not healthy has something to say. -/
theorem summary_ne_empty {status : Status} (h : status.verdict.1 = false) :
    status.summary ≠ "" := by
  intro hempty
  have hwell : status.verdict.1 = true := (Status.summary_eq_empty_iff.1 hempty).1
  rw [hwell] at h
  cases h

/-- The report of a cluster that is not healthy. -/
def unhealthy? : Attempt Status → Option Status
  | .ok status => if status.verdict.1 then none else some status
  | .error _ => none

theorem unhealthy?_eq_some {a : Attempt Status} {status : Status} :
    unhealthy? a = some status ↔ a = .ok status ∧ status.verdict.1 = false := by
  cases a with
  | error f => exact ⟨nofun, fun h => nomatch h.1⟩
  | ok s =>
      cases hs : s.verdict.1 with
      | true =>
          simp only [unhealthy?, hs, if_true, reduceCtorEq, false_iff]
          rintro ⟨he, hv⟩
          cases he
          rw [hs] at hv
          cases hv
      | false =>
          simp only [unhealthy?, hs, Bool.false_eq_true, if_false, Option.some.injEq]
          constructor
          · rintro rfl
            exact ⟨rfl, hs⟩
          · rintro ⟨he, _⟩
            cases he
            rfl

/-- The lines about these reports: one for each that is unhealthy, and no other. -/
def healthLines (h : List (Attempt Status)) : List String :=
  (h.filterMap unhealthy?).map Status.summary

theorem ne_empty_of_mem_healthLines {h : List (Attempt Status)} {line : String}
    (hl : line ∈ healthLines h) : line ≠ "" := by
  obtain ⟨status, hs, rfl⟩ := List.mem_map.1 hl
  obtain ⟨a, _, ha⟩ := List.mem_filterMap.1 hs
  exact summary_ne_empty (unhealthy?_eq_some.1 ha).2

/-! ## The watch -/

/-- Asking for a report, in a wait for health. -/
def Settings.healthQuestion (s : Settings) : Question Status where
  operation := "fetch ceph status"
  patience := s.patience.toNat
  wanted := confirmations s.healthConfirmations
  wanted_pos := confirmations_pos _
  judge status := .ok status.verdict.1

/-- A wait for health. -/
def healthWatch (c : Context) : Watch (Attempt Status) where
  look p := p.guard (Monitor.fetchStatus c).attempt
  telling h := (h.head?.bind unhealthy?).map Status.summary
  operation _ := "rook to become healthy"
  last h := some (((h.findSome? unhealthy?).map fun status => status.verdict.2).getD "")
  Settles := c.settings.healthQuestion.Decides

/-- What the wait remembers after these reports. -/
structure HealthWait.StandsFor (s : Settings) (h : List (Attempt Status)) (w : HealthWait) :
    Prop where
  budget : s.healthQuestion.Spent h w.budget
  streak : w.streak = row s.healthQuestion.good h
  last : w.last = ((h.findSome? unhealthy?).map fun status => status.verdict.2).getD ""

theorem recalls_health (c : Context) (p : Pacer) :
    (healthWatch c).Recalls (HealthWait.StandsFor c.settings) p HealthWait.stopped
      (HealthWait.poll c (confirmations c.settings.healthConfirmations) p)
      (HealthWait.observe (confirmations c.settings.healthConfirmations)) where
  poll_eq _ := rfl
  stopped_eq h w hw := by
    funext i
    simp only [HealthWait.stopped, Watch.stopped, healthWatch, hw.last]
  leads h w hw x := by
    cases x with
    | error f =>
        exact Question.leads_error rfl hw.budget rfl fun b' hb =>
          ⟨hb, (row_cons_of_neg h rfl).symm, hw.last⟩
    | ok status =>
        cases hv : status.verdict.1 with
        | false =>
            have hother : c.settings.healthQuestion.judge status = .ok false := congrArg _ hv
            have hun : unhealthy? (.ok status) = some status := unhealthy?_eq_some.2 ⟨rfl, hv⟩
            have hbad : c.settings.healthQuestion.good (.ok status) = false := by
              simp [Question.good, hother]
            simp only [HealthWait.observe, hv, Bool.false_eq_true, if_false]
            refine .again (fun r => Question.not_decides_other hother)
              ⟨hw.budget.succeed, (row_cons_of_neg h hbad).symm, ?_⟩ ?_
            · simp [hun]
            · simp [healthWatch, hun]
        | true =>
            have hwell : c.settings.healthQuestion.judge status = .ok true := congrArg _ hv
            have hun : unhealthy? (.ok status) = none := by simp [unhealthy?, hv]
            have hgood : c.settings.healthQuestion.good (.ok status) = true := by
              simp [Question.good, hwell]
            simp only [HealthWait.observe, hv, if_true]
            -- the rule counts the reports and the wait its streak, which is the same number
            by_cases henough : confirmations c.settings.healthConfirmations ≤ w.streak + 1
            · rw [if_pos henough]
              refine .met fun r => ?_
              rw [hw.streak] at henough
              show c.settings.healthQuestion.Decides _ r ↔ _
              rw [Question.decides_good hwell]
              exact and_iff_left henough
            · rw [if_neg henough]
              refine .again (fun r hd => ?_) ⟨hw.budget.succeed, ?_, ?_⟩ ?_
              · rw [hw.streak] at henough
                exact henough ((Question.decides_good hwell).1 hd).2
              · show w.streak + 1 = _
                rw [row_cons_of_pos h hgood, hw.streak]
              · simpa [hun] using hw.last
              · simp [healthWatch, hun]

/-! ## Its lines -/

theorem said_health (c : Context) (h : List (Attempt Status)) :
    (healthWatch c).said h = healthLines h := by
  induction h with
  | nil => rfl
  | cons x h ih =>
      show ((unhealthy? x).map Status.summary).toList ++ (healthWatch c).said h = _
      rw [ih]
      cases hx : unhealthy? x <;> simp [healthLines, hx]

/-- Nothing is told of the report that ends the wait. -/
theorem telling_health_of_settles {c : Context} {h : List (Attempt Status)} {r : Attempt Unit}
    (hs : (healthWatch c).Settles h r) : (healthWatch c).telling h = none := by
  cases hs with
  | met enough =>
      cases h with
      | nil => rfl
      | cons a h =>
          have hgood := Question.good_of_wanted enough
          cases a with
          | error f => rfl
          | ok status =>
              have hv : status.verdict.1 = true := by
                cases hv : status.verdict.1 with
                | true => rfl
                | false => simp [Question.good, Settings.healthQuestion, hv] at hgood
              simp [healthWatch, unhealthy?, hv]
  | refused judged => cases judged
  | impatient _ _ => rfl
  | hopeless _ => rfl

/-! ## Its runs -/

variable {σ : Type}

/-- The interval and the deadline of a wait that starts now. -/
def Context.pacer (c : Context) (timeout : Option Nat) (now : Nat) : Pacer :=
  ⟨c.settings.interval.toNat, timeout.map (now + ·)⟩

/-- After a line that stays has been told. -/
def Timeline.report (t : Timeline σ) (text : String) : Timeline σ :=
  { t with seen := .told t.time (.line text) :: t.seen }

/-- When the first poll of a wait for health is due. -/
def Timeline.healthPolling (t : Timeline σ) : Timeline σ :=
  t.report "Waiting for Rook-Ceph to be healthy"

/-- What a run of a wait for health that begins at `t` owes to the reports. -/
structure GoesByHealth (c : Context) (timeout : Option Nat) (server : Server σ)
    (cancelAt : Option Nat) (t : Timeline σ) (run : Ending (Attempt Unit) × Timeline σ) :
    Prop where
  goesBy : Watch.Starts timeout t ((healthWatch c).GoesBy server cancelAt (c.pacer timeout t.time)
    c.polls t.healthPolling) run
  /-- By the time the next poll is due each unhealthy report has been told of in a line, -/
  linesBetween : ∀ h u, (healthWatch c).Comes server cancelAt (c.pacer timeout t.time) c.polls
    t.healthPolling h u → passings u.seen = healthLines h ++ passings t.seen
  /-- and so it has when the wait ends. -/
  linesAtEnd : ∀ h r u, (healthWatch c).Ends server cancelAt (c.pacer timeout t.time) c.polls
    t.healthPolling h r u → passings u.seen = healthLines h ++ passings t.seen
  /-- Each line says something. -/
  line_ne_empty : ∀ h, ∀ line ∈ healthLines h, line ≠ ""

theorem goesBy_awaitHealth (c : Context) (timeout : Option Nat) (server : Server σ)
    (cancelAt : Option Nat) (t : Timeline σ) :
    Watch.Starts timeout t ((healthWatch c).GoesBy server cancelAt (c.pacer timeout t.time) c.polls
      t.healthPolling) ((awaitHealth c timeout).attempt.run server cancelAt t) := by
  have hstart : HealthWait.StandsFor c.settings []
      ⟨c.settings.budget "fetch ceph status", 0, ""⟩ := ⟨Budget.counts_zero, rfl, rfl⟩
  refine Watch.starts_bind ?_
  exact Watch.goesBy_of_recalls (recalls_health c (c.pacer timeout t.time)) hstart
    fun r => Question.not_decides_nil

/-- A wait for health goes by the reports that it fetches. -/
theorem awaitHealth_by_reports (c : Context) (timeout : Option Nat) (server : Server σ)
    (cancelAt : Option Nat) (t : Timeline σ) :
    GoesByHealth c timeout server cancelAt t
      ((awaitHealth c timeout).attempt.run server cancelAt t) := by
  have hsilent : (healthWatch c).Silent server cancelAt (c.pacer timeout t.time) := fun u =>
    passings_guard _ (lasting_fetchStatus c) u
  have hbegin : passings t.healthPolling.seen = passings t.seen := rfl
  constructor
  case goesBy => exact goesBy_awaitHealth c timeout server cancelAt t
  case linesBetween =>
    intro h u hc
    rw [hc.passings_eq hsilent, said_health, hbegin]
  case linesAtEnd =>
    intro h r u he
    rw [he.passings_eq hsilent fun _ _ => telling_health_of_settles, said_health, hbegin]
  case line_ne_empty =>
    intro h line hl
    exact ne_empty_of_mem_healthLines hl

end OsdMigration
