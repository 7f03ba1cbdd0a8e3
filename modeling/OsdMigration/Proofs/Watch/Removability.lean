import OsdMigration.Proofs.Removal.Gate
import OsdMigration.Proofs.Watch.Health

set_option autoImplicit false

/-! # Waiting until an OSD can go, by what was learnt

Each poll of this wait asks up to two questions, and what the wait does is decided by three counts
over what the polls found (`RemovalRule`): how many of the last ones were in favour, how many of the
last ones did not learn the health, and how many did not learn whether the OSD can go since the last
one that did. Polls that did not come to the second question leave the third count as it is.

Whether the OSD can go is asked only after a report of a healthy cluster, in the same poll
(`AskedInHealth`).
-/

namespace OsdMigration

open Ceph (Command Status)
open Cluster (Request)
open Job (Always Course)
open Monitor (Answer)
open Removal (append_eq_append_cons eq_of_singleton)
open RemovalWait (Finding)

/-! ## Findings -/

namespace RemovalWait.Finding

/-- The poll was in favour: the cluster was healthy and said that the OSD can go. -/
def favours : Finding → Bool
  | .asked (.ok ⟨.safe, _⟩) => true
  | _ => false

/-- The failure to learn the health. -/
def blindness? : Finding → Option Failure
  | .blind f => some f
  | _ => none

/-- The failure to learn whether the OSD can go. An answer that cannot be understood is one. -/
def doubt? (osd : UInt32) : Finding → Option Failure
  | .asked (.error f) => some f
  | .asked (.ok ⟨.unknown, words⟩) =>
    some (.output (Request.commandLine (Command.safeToDestroy osd).argv) words)
  | _ => none

/-- It was learnt whether the OSD can go. -/
def answered : Finding → Bool
  | .asked (.ok ⟨.safe, _⟩) | .asked (.ok ⟨.busy _, _⟩) => true
  | _ => false

/-- What a poll with a verdict says. -/
def message? (osd : UInt32) : Finding → Option String
  | .unhealthy status => some status.verdict.2
  | .asked (.ok ⟨.safe, _⟩) => some (Ceph.osdName osd ++ " is safe to destroy")
  | .asked (.ok ⟨.busy groups, _⟩) =>
    some (toString groups ++ " PGs are still mapped to " ++ Ceph.osdName osd)
  | _ => none

end RemovalWait.Finding

open RemovalWait.Finding

/-- A failure after which it is worth trying again. -/
def worthRetrying (f : Option Failure) : Bool := f.any Failure.isRetryable

/-- How many of the last polls did not learn the health, for a reason that may pass. -/
def blindPolls (h : List Finding) : Nat := row (fun x => worthRetrying x.blindness?) h

/-- How many polls did not learn whether the OSD can go, for a reason that may pass, since it was
last learnt. -/
def doubtfulPolls (osd : UInt32) (h : List Finding) : Nat :=
  (h.takeWhile fun x => !x.answered).countP fun x => worthRetrying (x.doubt? osd)

/-- When the findings of a wait until an OSD can go settle it, the latest first. -/
inductive RemovalRule (osd : UInt32) (wanted tolerance : Nat) : List Finding → Attempt Unit → Prop
  /-- The last polls were in favour, as many in a row as are wanted. -/
  | met {h : List Finding} (enough : wanted ≤ row favours h) :
      RemovalRule osd wanted tolerance h (.ok ())
  /-- The health could not be learnt, too often in a row. -/
  | blind {h : List Finding} {x : Finding} {f : Failure} (failed : x.blindness? = some f)
      (retryable : f.isRetryable = true) (full : tolerance ≤ blindPolls (x :: h)) :
      RemovalRule osd wanted tolerance (x :: h) (.error (.repeated "fetch ceph status" tolerance f))
  /-- Whether the OSD can go could not be learnt, too often since it last could. -/
  | doubtful {h : List Finding} {x : Finding} {f : Failure} (failed : x.doubt? osd = some f)
      (retryable : f.isRetryable = true) (full : tolerance ≤ doubtfulPolls osd (x :: h)) :
      RemovalRule osd wanted tolerance (x :: h)
        (.error (.repeated "check if the OSD is safe to destroy" tolerance f))
  /-- Either failed in a way that trying again cannot mend. -/
  | hopeless {h : List Finding} {x : Finding} {f : Failure}
      (failed : x.blindness? = some f ∨ x.doubt? osd = some f) (final : f.isRetryable = false) :
      RemovalRule osd wanted tolerance (x :: h) (.error f)

section

variable {osd : UInt32} {wanted tolerance : Nat} {h : List Finding} {x : Finding} {f : Failure}
  {words : String} {r : Attempt Unit}

/-- A failure of the second question says nothing about the first, and nothing in favour. -/
theorem of_doubt? (hx : x.doubt? osd = some f) :
    x.blindness? = none ∧ x.favours = false ∧ x.answered = false ∧ x.message? osd = none := by
  rcases x with g | status | g | ⟨_ | groups | _, words⟩
  case asked.error => exact ⟨rfl, rfl, rfl, rfl⟩
  case asked.ok.unknown => exact ⟨rfl, rfl, rfl, rfl⟩
  all_goals cases hx

theorem doubtfulPolls_cons (osd : UInt32) (x : Finding) (h : List Finding) :
    doubtfulPolls osd (x :: h) =
      if x.answered then 0
      else if worthRetrying (x.doubt? osd) then doubtfulPolls osd h + 1
      else doubtfulPolls osd h := by
  cases ha : x.answered <;> cases hd : worthRetrying (x.doubt? osd) <;>
    simp [doubtfulPolls, ha, hd]

theorem doubtfulPolls_of_doubt (hx : x.doubt? osd = some f) (retryable : f.isRetryable = true) :
    doubtfulPolls osd (x :: h) = doubtfulPolls osd h + 1 := by
  have ha : x.answered = false := (of_doubt? hx).2.2.1
  simp [doubtfulPolls_cons, ha, hx, worthRetrying, retryable]

theorem not_removalRule_nil (hw : 0 < wanted) : ¬ RemovalRule osd wanted tolerance [] r := by
  rintro (⟨enough⟩ | _)
  exact absurd enough (Nat.not_le_of_gt hw)

/-- A finding that neither favours the removal nor is a failure settles nothing. -/
theorem not_removalRule_other (hw : 0 < wanted) (hf : x.favours = false)
    (hb : x.blindness? = none) (hd : x.doubt? osd = none) :
    ¬ RemovalRule osd wanted tolerance (x :: h) r := by
  intro hr
  cases hr with
  | met enough =>
      rw [such_of_le_row hw enough] at hf
      cases hf
  | blind failed =>
      rw [hb] at failed
      cases failed
  | doubtful failed =>
      rw [hd] at failed
      cases failed
  | hopeless failed =>
      rw [hb, hd] at failed
      rcases failed with failed | failed <;> cases failed

theorem removalRule_safe :
    RemovalRule osd wanted tolerance (.asked (.ok ⟨.safe, words⟩) :: h) r ↔
      r = .ok () ∧ wanted ≤ row favours h + 1 := by
  have hrow : row favours (.asked (.ok ⟨.safe, words⟩) :: h) = row favours h + 1 :=
    row_cons_of_pos h rfl
  constructor
  · intro hr
    cases hr with
    | met enough => exact ⟨rfl, hrow ▸ enough⟩
    | blind failed => cases failed
    | doubtful failed => cases failed
    | hopeless failed => rcases failed with failed | failed <;> cases failed
  · rintro ⟨rfl, enough⟩
    exact .met (hrow ▸ enough)

/-- A poll fails in one way. -/
theorem failure_unique {g : Failure} (hf : x.blindness? = some f ∨ x.doubt? osd = some f)
    (hg : x.blindness? = some g ∨ x.doubt? osd = some g) : g = f := by
  rcases hf with hf | hf <;> rcases hg with hg | hg
  · exact Option.some.inj (hg.symm.trans hf)
  · rw [(of_doubt? hg).1] at hf
    cases hf
  · rw [(of_doubt? hf).1] at hg
    cases hg
  · exact Option.some.inj (hg.symm.trans hf)

theorem removalRule_final (hw : 0 < wanted)
    (hx : x.blindness? = some f ∨ x.doubt? osd = some f) (final : f.isRetryable = false) :
    RemovalRule osd wanted tolerance (x :: h) r ↔ r = .error f := by
  -- whatever else ends the wait is a failure that is worth another try, and there is no other one
  have hother : ∀ g, x.blindness? = some g ∨ x.doubt? osd = some g →
      g.isRetryable = true → False := by
    intro g hg hretry
    rw [failure_unique hx hg, final] at hretry
    cases hretry
  constructor
  · intro hr
    cases hr with
    | met enough =>
        have hfav := such_of_le_row hw enough
        rcases hx with hx | hx
        · rcases x with g | status | g | ⟨_ | groups | _, words⟩ <;> cases hx
          cases hfav
        · rw [(of_doubt? hx).2.1] at hfav
          cases hfav
    | blind failed retryable => exact (hother _ (.inl failed) retryable).elim
    | doubtful failed retryable => exact (hother _ (.inr failed) retryable).elim
    | hopeless failed _ => rw [failure_unique hx failed]
  · rintro rfl
    exact .hopeless hx final

theorem removalRule_blind (hw : 0 < wanted) (retryable : f.isRetryable = true) :
    RemovalRule osd wanted tolerance (.blind f :: h) r ↔
      r = .error (.repeated "fetch ceph status" tolerance f) ∧ tolerance ≤ blindPolls h + 1 := by
  have hcount : blindPolls (.blind f :: h) = blindPolls h + 1 := row_cons_of_pos h retryable
  constructor
  · intro hr
    cases hr with
    | met enough => cases such_of_le_row hw enough
    | blind failed _ full =>
        cases failed
        exact ⟨rfl, hcount ▸ full⟩
    | doubtful failed => cases failed
    | hopeless failed final =>
        rcases failed with failed | failed <;> cases failed
        rw [retryable] at final
        cases final
  · rintro ⟨rfl, full⟩
    exact .blind rfl retryable (hcount ▸ full)

theorem removalRule_doubtful (hw : 0 < wanted) (hx : x.doubt? osd = some f)
    (retryable : f.isRetryable = true) :
    RemovalRule osd wanted tolerance (x :: h) r ↔
      r = .error (.repeated "check if the OSD is safe to destroy" tolerance f) ∧
        tolerance ≤ doubtfulPolls osd h + 1 := by
  obtain ⟨hb, hf, _⟩ := of_doubt? hx
  have hcount := doubtfulPolls_of_doubt (h := h) hx retryable
  constructor
  · intro hr
    cases hr with
    | met enough =>
        rw [such_of_le_row hw enough] at hf
        cases hf
    | blind failed =>
        rw [hb] at failed
        cases failed
    | doubtful failed _ full =>
        rw [hx] at failed
        cases failed
        exact ⟨rfl, hcount ▸ full⟩
    | hopeless failed final =>
        rw [hb, hx] at failed
        rcases failed with failed | failed <;> cases failed
        rw [retryable] at final
        cases final
  · rintro ⟨rfl, full⟩
    exact .doubtful hx retryable (hcount ▸ full)

end

/-! ## The watch -/

/-- One poll: the report, and if it is that of a healthy cluster, the second question. Either may be
interrupted. -/
def removalLook (c : Context) (osd : UInt32) (p : Pacer) :
    Procedure (Except Interruption Finding) :=
  (p.guard (Monitor.fetchStatus c).attempt).bind fun
    | .error i => .pure (.error i)
    | .ok (.error f) => .pure (.ok (.blind f))
    | .ok (.ok status) =>
      if status.verdict.1 then
        (p.guard (Monitor.askRemovability c osd).attempt).bind fun answer =>
          .pure (answer.map .asked)
      else .pure (.ok (.unhealthy status))

/-- What is told of the last finding. -/
def removalTelling (osd : UInt32) (wanted : Nat) : List Finding → Option String
  | .unhealthy status :: _ => some status.summary
  | .asked (.ok ⟨.safe, words⟩) :: h =>
    some (Ceph.osdName osd ++ " is safe to destroy, confirming ("
      ++ toString (row favours (.asked (.ok ⟨.safe, words⟩) :: h)) ++ "/" ++ toString wanted ++ ")")
  | .asked (.ok ⟨.busy groups, _⟩) :: _ => some ("Waiting for " ++ toString groups
      ++ " PGs to be moved off of " ++ Ceph.osdName osd ++ " before removing it")
  | _ => none

/-- A wait until an OSD can go. -/
def removalWatch (c : Context) (osd : UInt32) : Watch Finding where
  look := removalLook c osd
  telling := removalTelling osd (confirmations c.settings.safeConfirmations)
  operation _ := Ceph.osdName osd ++ " to be safe to destroy"
  last h := some ((h.findSome? fun x => x.message? osd).getD "")
  Settles := RemovalRule osd (confirmations c.settings.safeConfirmations)
    (max c.settings.patience.toNat 1)

/-- What the wait remembers after these findings. -/
structure RemovalWait.StandsFor (s : Settings) (osd : UInt32) (h : List Finding)
    (w : RemovalWait) : Prop where
  health : w.health.Counts "fetch ceph status" s.patience.toNat (blindPolls h)
  safety : w.safety.Counts "check if the OSD is safe to destroy" s.patience.toNat
    (doubtfulPolls osd h)
  streak : w.streak = row favours h
  last : w.last = (h.findSome? fun x => x.message? osd).getD ""

/-- The two questions of a poll may be taken together before what they found is judged. -/
theorem poll_removal_eq (c : Context) (osd : UInt32) (wanted : Nat) (p : Pacer) (w : RemovalWait) :
    RemovalWait.poll c osd wanted p w =
      Job.heeding (RemovalWait.stopped osd w) (removalLook c osd p) >>= fun x =>
        Job.ofAttempt (RemovalWait.observe osd wanted w x) := by
  show (RemovalWait.poll c osd wanted p w).attempt =
    (Job.heeding (RemovalWait.stopped osd w) (removalLook c osd p) >>= _).attempt
  unfold RemovalWait.poll removalLook
  rw [Job.attempt_bind, Job.attempt_bind]
  show ((p.guard (Monitor.fetchStatus c).attempt).bind _).bind _ =
    (((p.guard (Monitor.fetchStatus c).attempt).bind _).bind _).bind _
  rw [Procedure.bind_assoc, Procedure.bind_assoc, Procedure.bind_assoc]
  congr 1
  funext report
  rcases report with i | f | status
  · rfl
  · rfl
  · show (if status.verdict.1 = true then (_ : Job _) else _).attempt =
      Procedure.bind (if status.verdict.1 = true then _ else _) _
    split
    · -- the second question on both sides, and then what becomes of its answer
      rw [Job.attempt_bind]
      show ((p.guard (Monitor.askRemovability c osd).attempt).bind _).bind _ = _
      rw [Procedure.bind_assoc, Procedure.bind_assoc]
      congr 1
      funext answer
      cases answer <;> rfl
    · rfl

/-- A poll that asked the second question and did not learn the answer leads where the budget for
that question says. It has learnt the health. -/
theorem leads_doubt {c : Context} {osd : UInt32} {h : List Finding} {w : RemovalWait} {x : Finding}
    {f : Failure} (hw : w.StandsFor c.settings osd h) (hx : x.doubt? osd = some f)
    (tells : none = (removalWatch c osd).telling (x :: h)) :
    (removalWatch c osd).Leads (RemovalWait.StandsFor c.settings osd) (x :: h)
      (do
        let safety ← w.safety.spend f
        pure (.again { w with health := w.health.succeed, safety, streak := 0 } none)) := by
  have hpos := confirmations_pos c.settings.safeConfirmations
  obtain ⟨hblind, hfav, _, hmessage⟩ := of_doubt? hx
  refine leads_spend hw.safety (fun hf r => ?final) (fun hf r => ?counted) tells
    fun hf b hb => ?means
  case final => exact removalRule_final hpos (.inr hx) hf
  case counted => exact removalRule_doubtful hpos hx hf
  case means =>
    constructor
    case health =>
      have hnone : blindPolls (x :: h) = 0 := row_cons_of_neg h (by simp [worthRetrying, hblind])
      rw [hnone]
      exact hw.health.succeed
    case safety =>
      rw [doubtfulPolls_of_doubt hx hf]
      exact hb
    case streak => exact (row_cons_of_neg h hfav).symm
    case last => simpa [hmessage] using hw.last

theorem recalls_removal (c : Context) (osd : UInt32) (p : Pacer) :
    (removalWatch c osd).Recalls (RemovalWait.StandsFor c.settings osd) p
      (RemovalWait.stopped osd)
      (RemovalWait.poll c osd (confirmations c.settings.safeConfirmations) p)
      (RemovalWait.observe osd (confirmations c.settings.safeConfirmations)) where
  poll_eq := poll_removal_eq c osd _ p
  stopped_eq h w hw := by
    funext i
    simp only [RemovalWait.stopped, Watch.stopped, removalWatch, hw.last]
  leads h w hw x := by
    have hpos := confirmations_pos c.settings.safeConfirmations
    -- one case for each kind of finding; only a safe answer keeps the streak
    rcases x with f | status | f | ⟨_ | groups | _, words⟩
    case blind =>
      refine leads_spend hw.health (fun hf r => ?_) (fun hf r => ?_) rfl fun hf b hb => ?_
      · exact removalRule_final hpos (.inl rfl) hf
      · exact removalRule_blind hpos hf
      · refine ⟨?_, hw.safety, rfl, hw.last⟩
        show b.Counts _ _ (row (fun x => worthRetrying x.blindness?) (.blind f :: h))
        rw [row_cons_of_pos h hf]
        exact hb
    case unhealthy =>
      exact .again (fun r => not_removalRule_other hpos rfl rfl rfl)
        ⟨hw.health.succeed, hw.safety, rfl, rfl⟩ rfl
    case asked.error => exact leads_doubt hw rfl rfl
    case asked.ok.safe =>
      have hrow : w.streak + 1 = row favours (.asked (.ok ⟨.safe, words⟩) :: h) := by
        rw [row_cons_of_pos h rfl, hw.streak]
      show (removalWatch c osd).Leads _ _ (if _ ≤ w.streak + 1 then .ok .met else .ok (.again _ _))
      rw [hrow]
      by_cases henough : confirmations c.settings.safeConfirmations ≤
          row favours (.asked (.ok ⟨.safe, words⟩) :: h)
      · rw [if_pos henough]
        rw [row_cons_of_pos h rfl] at henough
        refine .met fun r => ?_
        show RemovalRule _ _ _ _ r ↔ _
        rw [removalRule_safe]
        exact and_iff_left henough
      · rw [if_neg henough]
        rw [row_cons_of_pos h rfl] at henough
        exact .again (fun r hr => henough (removalRule_safe.1 hr).2)
          ⟨hw.health.succeed, hw.safety.succeed, rfl, rfl⟩ rfl
    case asked.ok.busy =>
      exact .again (fun r => not_removalRule_other hpos rfl rfl rfl)
        ⟨hw.health.succeed, hw.safety.succeed, rfl, rfl⟩ rfl
    case asked.ok.unknown => exact leads_doubt hw rfl rfl

/-! ## When the second question is asked -/

/-- A request that asks whether an OSD can go. -/
def Queries (r : Request) : Prop :=
  ∃ space pod container osd, r = .exec space pod container (Command.safeToDestroy osd).argv

/-- The listing of the pods among which the toolbox is looked for. -/
abbrev ListsToolbox (s : Settings) (r : Request) : Prop := r = .listPods s.space s.toolboxSelector

/-- Whether an OSD can go is asked right after a report of a healthy cluster was fetched: between
the two nothing is asked for but the pod to ask in. -/
def AskedInHealth (c : Context) (seen : List Event) : Prop :=
  ∀ before t r after, Queries r → seen = before ++ .called t r :: after →
    ∃ earlier report listing status, before = earlier ++ report ++ listing ∧
      Course (Monitor.fetchStatus c) report (some (.ok status)) ∧ status.verdict.1 = true ∧
      Asking (ListsToolbox c.settings) listing

section

variable {c : Context} {osd : UInt32} {seen : List Event}

theorem askedInHealth_of_none (h : Asking (fun r => ¬ Queries r) seen) : AskedInHealth c seen := by
  rintro before t r after hr rfl
  exact absurd hr (h.called (List.mem_append_right _ List.mem_cons_self))

theorem cumulative_askedInHealth (c : Context) : Cumulative (AskedInHealth c) where
  nil := askedInHealth_of_none (cumulative_asking _).nil
  told t m := askedInHealth_of_none ((cumulative_asking _).told t m)
  append := by
    intro a b ha hb before t r after hr h
    rcases append_eq_append_cons h with ⟨rest, hs, _⟩ | ⟨front, rfl, hs⟩
    · exact ha _ _ _ _ hr hs
    · obtain ⟨earlier, report, listing, status, rfl, hreport⟩ := hb _ _ _ _ hr hs
      exact ⟨a ++ earlier, report, listing, status, by simp, hreport⟩

/-- Fetching a report asks no such thing. -/
theorem not_queries_of_asks {s : Settings} {r : Request} (h : Asks s (fun _ => False) r) :
    ¬ Queries r := by
  rintro ⟨space, pod, container, n, rfl⟩
  generalize hr : Request.exec space pod container (Command.safeToDestroy n).argv = r at h
  cases h with
  | upkeep h =>
      have hnone := h.not_command
      rw [← hr] at hnone
      cases hnone
  | toolboxPods => cases hr
  | deployment _ => cases hr
  | status _ _ =>
      injection hr with _ _ _ hargv
      cases Command.argv_injective hargv
  | safeToDestroy h _ _ => exact h

/-- The second question begins with the listing. -/
theorem listing_before_query {o : Option (Attempt Answer)} {before after : List Event} {t : Nat}
    {r : Request} (h : Course (Monitor.askRemovability c osd) seen o) (hr : Queries r)
    (hs : seen = before ++ .called t r :: after) : Asking (ListsToolbox c.settings) before := by
  obtain ⟨o', h, _⟩ := (Job.course_during ..).1 h
  obtain ⟨o', h, _⟩ := (Job.course_map ..).1 h
  obtain ⟨listing, rest, rfl, hl, hx⟩ := course_run h
  rcases append_eq_append_cons hs with ⟨_, rfl, _⟩ | ⟨front, rfl, hrest⟩
  · -- the query is not in the listing
    obtain rfl := hl.called (List.mem_append_right _ List.mem_cons_self)
    obtain ⟨_, _, _, _, hr⟩ := hr
    cases hr
  · have hfront : front = [] := by
      cases hx with
      | unsent _ => simp at hrest
      | unanswered _ => exact (eq_of_singleton hrest).1
      | answered _ =>
          rcases append_eq_append_cons (a := [_]) (b := [_]) hrest with ⟨_, hq, _⟩ | ⟨_, rfl, hq⟩
          · exact (eq_of_singleton hq).1
          · cases (eq_of_singleton hq).2.1
    rw [hfront, List.append_nil]
    exact hl

/-- In one poll it is asked after the report only, and if that is healthy. -/
theorem askedInHealth_poll (wanted : Nat) (p : Pacer) (w : RemovalWait) :
    Always (AskedInHealth c) (RemovalWait.poll c osd wanted p w) := by
  have hnone : ∀ {seen o}, Course (Monitor.fetchStatus c) seen o →
      Asking (fun r => ¬ Queries r) seen := fun h =>
    (sends_fetchStatus c _ _ h).mono fun _ => not_queries_of_asks
  have hfetch : Always (AskedInHealth c)
      (p.guarded (RemovalWait.stopped osd w) (Monitor.fetchStatus c).attempt) :=
    (cumulative_askedInHealth c).guarded p _ fun _ _ h => askedInHealth_of_none (hnone h)
  intro seen o h
  rcases (Job.course_bind ..).1 h with ⟨a, report, rest, rfl, hf, hn⟩ | ⟨_, h, _⟩ | ⟨h, _⟩
  -- the question stands behind the report, and only a healthy one leads to it
  · have hreport := (Job.course_guarded_ok ..).1 hf
    rcases a with f | status
    · obtain ⟨rfl, _⟩ := hn
      rw [List.append_nil]
      exact hfetch _ _ hf
    · replace hn : Course (if status.verdict.1 = true then _ else _) rest o := hn
      split at hn
      · rename_i hv
        intro before t r after hr hs
        rcases append_eq_append_cons hs with ⟨_, rfl, _⟩ | ⟨front, rfl, hrest⟩
        · exact absurd hr ((hnone hreport).called (List.mem_append_right _ List.mem_cons_self))
        · refine ⟨[], report, front, status, rfl, hreport, hv, ?_⟩
          obtain ⟨_, hasked⟩ := Job.course_of_judged hn
          rcases (Job.course_guarded ..).1 hasked with ⟨_, rfl, _⟩ | ⟨_, h, _⟩ | ⟨_, h, _⟩ | ⟨h, _⟩
          · simp at hrest
          all_goals exact listing_before_query h hr hrest
      · obtain ⟨rfl, _⟩ := hn
        rw [List.append_nil]
        exact hfetch _ _ hf
  · exact hfetch _ _ h
  · exact hfetch _ _ h

end

/-! ## Its runs -/

/-- What a run of a wait until an OSD can go that begins at `t` owes to the findings. -/
structure GoesByFindings {σ : Type} (c : Context) (osd : UInt32) (timeout : Option Nat)
    (server : Server σ) (cancelAt : Option Nat) (t : Timeline σ)
    (run : Ending (Attempt Unit) × Timeline σ) : Prop where
  goesBy : Watch.Starts timeout t ((removalWatch c osd).GoesBy server cancelAt
    (c.pacer timeout t.time) c.polls t) run
  /-- In the whole run the second question is asked only of a healthy cluster. -/
  asked : ∃ seen, run.2.seen = seen.reverse ++ t.seen ∧ AskedInHealth c seen

theorem goesBy_awaitRemovable {σ : Type} (c : Context) (osd : UInt32) (timeout : Option Nat)
    (server : Server σ) (cancelAt : Option Nat) (t : Timeline σ) :
    Watch.Starts timeout t ((removalWatch c osd).GoesBy server cancelAt (c.pacer timeout t.time)
      c.polls t) ((awaitRemovable c osd timeout).attempt.run server cancelAt t) := by
  have hstart : RemovalWait.StandsFor c.settings osd []
      ⟨c.settings.budget "fetch ceph status",
        c.settings.budget "check if the OSD is safe to destroy", 0, ""⟩ :=
    ⟨Budget.counts_zero, Budget.counts_zero, rfl, rfl⟩
  refine Watch.starts_bind ?_
  exact Watch.goesBy_of_recalls (recalls_removal c osd _) hstart
    fun r => not_removalRule_nil (confirmations_pos _)

/-- A wait until an OSD can go goes by what its polls find. -/
theorem awaitRemovable_by_findings {σ : Type} (c : Context) (osd : UInt32) (timeout : Option Nat)
    (server : Server σ) (cancelAt : Option Nat) (t : Timeline σ) :
    GoesByFindings c osd timeout server cancelAt t
      ((awaitRemovable c osd timeout).attempt.run server cancelAt t) := by
  constructor
  case goesBy => exact goesBy_awaitRemovable c osd timeout server cancelAt t
  case asked =>
    have hP := cumulative_askedInHealth c
    have halways : Always (AskedInHealth c) (awaitRemovable c osd timeout) :=
      hP.bind (hP.start _ _) fun p => hP.wait p _ (fun w => askedInHealth_poll _ p w) _ _
    obtain ⟨seen, hseen, hc⟩ :=
      Job.course_run server cancelAt (awaitRemovable c osd timeout) t
    exact ⟨seen, hseen, halways _ _ hc⟩

end OsdMigration
