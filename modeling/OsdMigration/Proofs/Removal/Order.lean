import OsdMigration.Proofs.Course.Runs
import OsdMigration.Proofs.Inventory
import OsdMigration.Proofs.Removal.Changes

set_option autoImplicit false

/-! # One removal at a time

Listed OSDs are removed one after the other. A step that fails ends the migration on the spot, and
the migration reports its OSDs as removed only if every step of every removal succeeded
(`Orderly`). No other OSD is so much as named.
-/

namespace OsdMigration.Removal

open Job (Sends)
open Migration (Outcome removeAll)

section

variable {σ : Type} (server : Server σ) (cancelAt : Option Nat) (c : Context)

/-- What follows the listing. -/
def finish (c : Context) (osds : List UInt32) : Job Outcome := do
  removeAll c osds
  Job.report "Migration completed successfully!"
  pure (.removed osds)

/-- The removals that begin at an instant come to a step of an OSD: the OSDs before it are removed,
and the steps before it are done. -/
def Reaches (t : Timeline σ) (done : List UInt32) (osd : UInt32) (front : List Step)
    (u : Timeline σ) : Prop :=
  ∃ v, (removeAll c done).attempt.run server cancelAt t = (.done (.ok ()), v) ∧
    (front.forM fun step => step.perform c osd).attempt.run server cancelAt v =
      (.done (.ok ()), u)

/-- What holds of a run whose removals of the given OSDs begin at an instant. -/
structure Orderly (osds : List UInt32) (t : Timeline σ)
    (run : Ending (Attempt Outcome) × Timeline σ) : Prop where
  /-- The changes are a beginning of those of the removals, one after the other. -/
  order : changes run.2.seen.reverse <+: osds.flatMap (plan c.settings)
  /-- No other OSD is named. -/
  named : ∀ e ∈ run.2.seen, ∀ r ∈ e.request?,
    Prepares c.settings r ∨ ∃ osd ∈ osds, ∃ step : Step, step.Sent c.settings osd r
  /-- A step that fails is the end of the run. -/
  stops : ∀ done osd rest front step back u f v, osds = done ++ osd :: rest →
    sequence = front ++ step :: back → Reaches server cancelAt c t done osd front u →
    (step.perform c osd).attempt.run server cancelAt u = (.done (.error f), v) →
      ∃ f', run = (.done (.error f'), v)
  /-- The run is completed just if all changes were made and every step succeeded, and then it
  reports just these OSDs. -/
  completes : ∀ removed, run.1 = .done (.ok (.removed removed)) ↔
    removed = osds ∧ changes run.2.seen.reverse = osds.flatMap (plan c.settings) ∧
      ∀ done osd rest front step back, osds = done ++ osd :: rest →
        sequence = front ++ step :: back →
        ∃ u v, Reaches server cancelAt c t done osd front u ∧
          (step.perform c osd).attempt.run server cancelAt u = (.done (.ok ()), v)

end

variable {σ : Type} {server : Server σ} {cancelAt : Option Nat} {c : Context}

/-! ## The removals -/

/-- If every step of the removals succeeds, so do the removals. -/
theorem removeAll_ok_of_steps {osds : List UInt32} {t : Timeline σ}
    (h : ∀ done osd rest front step back, osds = done ++ osd :: rest →
      sequence = front ++ step :: back →
      ∃ u v, Reaches server cancelAt c t done osd front u ∧
        (step.perform c osd).attempt.run server cancelAt u = (.done (.ok ()), v)) :
    ∃ u, (removeAll c osds).attempt.run server cancelAt t = (.done (.ok ()), u) := by
  rcases List.eq_nil_or_concat osds with rfl | ⟨done, osd, rfl⟩
  · exact ⟨t, rfl⟩
  · rw [List.concat_eq_append] at h ⊢
    -- the last step of the last removal has all the others before it
    obtain ⟨u, v, ⟨w, hdone, hfront⟩, hlast⟩ := h done osd [] (sequence.take 7) .cleanUp []
      rfl rfl
    have hall := Job.run_forM_snoc hfront hlast
    have hosd : (removeOsd c osd).attempt.run server cancelAt w =
        (.done (.ok ()), { v with
          seen := .told v.time (.line ("Successfully purged " ++ Ceph.osdName osd)) :: v.seen }) :=
      Job.run_bind_of_ok hall
    exact ⟨_, Job.run_forM_snoc hdone (Job.run_during_ok.2 hosd)⟩

/-- If the removals succeed, so does every step of them. -/
theorem steps_of_removeAll_ok {osds : List UInt32} {t z : Timeline σ}
    (h : (removeAll c osds).attempt.run server cancelAt t = (.done (.ok ()), z))
    {done rest : List UInt32} {osd : UInt32} {front back : List Step} {step : Step}
    (ho : osds = done ++ osd :: rest) (hs : sequence = front ++ step :: back) :
    ∃ u v, Reaches server cancelAt c t done osd front u ∧
      (step.perform c osd).attempt.run server cancelAt u = (.done (.ok ()), v) := by
  obtain ⟨w, _, hdone, hosd⟩ := Job.run_forM_ok h ho
  obtain ⟨_, _, hsteps, _⟩ := Job.run_bind_ok (Job.run_during_ok.1 hosd)
  obtain ⟨u, v, hfront, hstep⟩ := Job.run_forM_ok hsteps hs
  exact ⟨u, v, ⟨w, hdone, hfront⟩, hstep⟩

/-- A step that fails is the end of the removals. -/
theorem removeAll_error {osds : List UInt32} {t u v : Timeline σ} {done rest : List UInt32}
    {osd : UInt32} {front back : List Step} {step : Step} {f : Failure}
    (ho : osds = done ++ osd :: rest) (hs : sequence = front ++ step :: back)
    (hr : Reaches server cancelAt c t done osd front u)
    (hf : (step.perform c osd).attempt.run server cancelAt u = (.done (.error f), v)) :
    ∃ f', (removeAll c osds).attempt.run server cancelAt t = (.done (.error f'), v) := by
  obtain ⟨w, hdone, hfront⟩ := hr
  have hosd : (removeOsd c osd).attempt.run server cancelAt w = (.done (.error f), v) :=
    Job.run_bind_of_error (Job.run_forM_error hs hfront hf)
  exact ⟨_, Job.run_forM_error ho hdone (Job.run_during_error hosd)⟩

theorem follows_removeAll (c : Context) (osds : List UInt32) :
    Follows (osds.flatMap (plan c.settings)) (removeAll c osds) :=
  Follows.forM (fun osd => (follows_removeOsd c osd).during _) osds

theorem sends_removeAll (c : Context) (osds : List UInt32) :
    Sends (fun r => ∃ osd ∈ osds, ∃ step : Step, step.Sent c.settings osd r)
      (removeAll c osds) := by
  have hA := cumulative_asking
    (fun r => ∃ osd ∈ osds, ∃ step : Step, step.Sent c.settings osd r)
  refine hA.forM osds fun osd ho => Cumulative.during _ (hA.bind ?_ fun _ => hA.report _)
  exact hA.forM sequence fun step _ =>
    (sends_perform c osd step).mono fun _ hs => ⟨osd, ho, step, hs⟩

theorem follows_finish (c : Context) (osds : List UInt32) :
    Follows (osds.flatMap (plan c.settings)) (finish c osds) := by
  have h := (follows_removeAll c osds).bind fun _ =>
    (follows_report "Migration completed successfully!").bind fun _ =>
      follows_pure (Outcome.removed osds)
  rw [List.append_nil, List.append_nil] at h
  exact h

theorem sends_finish (c : Context) (osds : List UInt32) :
    Sends (fun r => ∃ osd ∈ osds, ∃ step : Step, step.Sent c.settings osd r) (finish c osds) := by
  have hA := cumulative_asking
    (fun r => ∃ osd ∈ osds, ∃ step : Step, step.Sent c.settings osd r)
  exact hA.bind (sends_removeAll c osds) fun _ => hA.bind (hA.report _) fun _ => hA.pure _

theorem run_finish_ok {osds : List UInt32} {t u : Timeline σ}
    (h : (removeAll c osds).attempt.run server cancelAt t = (.done (.ok ()), u)) :
    ((finish c osds).attempt.run server cancelAt t).1 = .done (.ok (.removed osds)) := by
  rw [finish, Job.run_bind_of_ok h, Job.run_bind_of_ok (Job.run_report ..), Job.run_pure]

/-- The run from the listing on is orderly. -/
theorem orderly_finish (osds : List UInt32) {t : Timeline σ}
    (ht : Asking (Prepares c.settings) t.seen) :
    Orderly server cancelAt c osds t ((finish c osds).attempt.run server cancelAt t) := by
  obtain ⟨seen, hs, hc⟩ := Job.course_run server cancelAt (finish c osds) t
  -- nothing was changed before the removals begin
  have hchanges : changes ((finish c osds).attempt.run server cancelAt t).2.seen.reverse =
      changes seen := by
    have hbefore : changes t.seen.reverse = [] :=
      changes_eq_nil (fun e he => ht e (List.mem_reverse.1 he)) fun _ => prepares_no_change
    calc changes ((finish c osds).attempt.run server cancelAt t).2.seen.reverse
        = changes (t.seen.reverse ++ seen) := by
          rw [hs, List.reverse_append, List.reverse_reverse]
      _ = changes t.seen.reverse ++ changes seen := changes_append ..
      _ = changes seen := by rw [hbefore, List.nil_append]
  obtain ⟨hordered, hall⟩ := follows_finish c osds seen _ hc
  constructor
  · rw [hchanges]
    exact hordered
  · rw [hs]
    intro e he r hr
    rcases List.mem_append.1 he with he | he
    · exact .inr (sends_finish c osds _ _ hc e (List.mem_reverse.1 he) r hr)
    · exact .inl (ht e he r hr)
  · intro done osd rest front step back u f v ho hsteps hreach hf
    obtain ⟨f', herr⟩ := removeAll_error ho hsteps hreach hf
    exact ⟨f', Job.run_bind_of_error herr⟩
  · intro removed
    constructor
    · intro hrun
      obtain ⟨_, u, hu, hrest⟩ := Job.run_bind_ok (Prod.ext hrun rfl)
      have hfinish := run_finish_ok hu
      rw [hrun] at hfinish
      cases hfinish
      refine ⟨rfl, ?_, fun done osd rest front step back => steps_of_removeAll_ok hu⟩
      rw [hchanges]
      exact hall (.removed osds) (by rw [hrun]; rfl)
    · -- that every step succeeded is enough
      rintro ⟨rfl, _, hsteps⟩
      obtain ⟨u, hu⟩ := removeAll_ok_of_steps hsteps
      exact run_finish_ok hu

end OsdMigration.Removal
